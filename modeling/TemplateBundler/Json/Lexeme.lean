import TemplateBundler.Json.Literal

/-!
# Lexeme: the words of JSON text

A lexeme is well formed on its own. A string whose escapes name half a surrogate pair, and a number
beyond the doubles, are well formed but have no value.

* `Json.Piece`, `Json.readPieces?`: the body of a quoted string;
* `Json.readQuoted?`: a quoted string at the front of a text;
* `Json.Lexeme.scan?`: a text as a list of lexemes.
-/

namespace TemplateBundler.Json

/-! ## Quoted strings -/

inductive Piece where
  | char (value : Char)
  | unit (value : Nat)
deriving Repr

def letterEscape? : Char → Option Char
  | '"' => some '"'
  | '\\' => some '\\'
  | '/' => some '/'
  | 'b' => some '\x08'
  | 'f' => some '\x0c'
  | 'n' => some '\n'
  | 'r' => some '\r'
  | 't' => some '\t'
  | _ => none

/-- The pieces up to the closing quote, after those already `done` (last first), and the text
behind the quote. Characters below U+0020 have to be escaped. -/
def readPieces? (done : List Piece) : List Char → Option (List Piece × List Char)
  | [] => none
  | '"' :: rest => some (done.reverse, rest)
  | '\\' :: 'u' :: a :: b :: c :: d :: rest =>
    match Integer.natOf? 16 [a, b, c, d] with
    | some value => readPieces? (.unit value :: done) rest
    | none => none
  | '\\' :: c :: rest =>
    match letterEscape? c with
    | some value => readPieces? (.char value :: done) rest
    | none => none
  | c :: rest => if 0x20 ≤ c.toNat ∧ c ≠ '\\' then readPieces? (.char c :: done) rest else none

def isHighSurrogate (value : Nat) : Bool := 0xD800 ≤ value && value < 0xDC00

def isLowSurrogate (value : Nat) : Bool := 0xDC00 ≤ value && value < 0xE000

/-- The characters of the pieces. Surrogate units come in pairs, high before low, with nothing
between them. -/
def joinPieces? (done : List Char) : List Piece → Option (List Char)
  | [] => some done.reverse
  | .char c :: rest => joinPieces? (c :: done) rest
  | .unit high :: .unit low :: rest =>
    if isHighSurrogate high && isLowSurrogate low then
      joinPieces? (Char.ofNat (0x10000 + (high - 0xD800) * 0x400 + (low - 0xDC00)) :: done) rest
    else if isHighSurrogate high || isLowSurrogate high then none
    else joinPieces? (Char.ofNat high :: done) (.unit low :: rest)
  | .unit value :: rest =>
    if isHighSurrogate value || isLowSurrogate value then none
    else joinPieces? (Char.ofNat value :: done) rest

/-- The string whose opening quote has just been read, if its escapes name characters, and the text
behind its closing quote. -/
def readQuoted? (s : List Char) : Option (Option (List Char) × List Char) :=
  (readPieces? [] s).map fun (pieces, rest) => (joinPieces? [] pieces, rest)

/-! ## Lexemes -/

inductive Lexeme where
  | openBrace
  | closeBrace
  | openBracket
  | closeBracket
  | comma
  | colon
  | null
  | bool (value : Bool)
  | number (value : Option Number)
  | string (value : Option String)
deriving Repr

namespace Lexeme

def isBlank (c : Char) : Bool := c = ' ' || c = '\n' || c = '\t' || c = '\r'

def read? : List Char → Option (Lexeme × List Char)
  | '\x7b' :: rest => some (.openBrace, rest)
  | '\x7d' :: rest => some (.closeBrace, rest)
  | '[' :: rest => some (.openBracket, rest)
  | ']' :: rest => some (.closeBracket, rest)
  | ',' :: rest => some (.comma, rest)
  | ':' :: rest => some (.colon, rest)
  | 'n' :: 'u' :: 'l' :: 'l' :: rest => some (.null, rest)
  | 't' :: 'r' :: 'u' :: 'e' :: rest => some (.bool true, rest)
  | 'f' :: 'a' :: 'l' :: 's' :: 'e' :: rest => some (.bool false, rest)
  | '"' :: rest =>
    (readQuoted? rest).map fun (value, rest) => (.string (value.map String.ofList), rest)
  | s => (Literal.read? s).map fun (literal, rest) => (.number literal.number?, rest)

/-! ## Every lexeme takes at least one character -/

theorem length_readPieces? {done : List Piece} {s : List Char} {pieces : List Piece}
    {rest : List Char} (h : readPieces? done s = some (pieces, rest)) : rest.length < s.length := by
  fun_induction readPieces? done s <;> simp_all <;> omega

theorem length_read? {s rest : List Char} {lexeme : Lexeme} (h : read? s = some (lexeme, rest)) :
    rest.length < s.length := by
  unfold read? at h
  split at h
  case h_10 =>
    simp only [readQuoted?, Option.map_map, Option.map_eq_some_iff] at h
    obtain ⟨⟨pieces, rest'⟩, hp, h⟩ := h
    have := length_readPieces? hp
    grind
  case h_11 =>
    simp only [Option.map_eq_some_iff] at h
    obtain ⟨⟨literal, rest'⟩, hl, h⟩ := h
    have := Literal.length_read? hl
    grind
  all_goals grind

def scanFrom? (done : List Lexeme) (s : List Char) : Option (List Lexeme) :=
  match s with
  | [] => some done.reverse
  | c :: rest =>
    if isBlank c then scanFrom? done rest
    else
      match h : read? (c :: rest) with
      | some (lexeme, behind) =>
        have := length_read? h
        scanFrom? (lexeme :: done) behind
      | none => none
termination_by s.length
decreasing_by
  · exact Nat.lt_succ_self _
  · assumption

def scan? (s : List Char) : Option (List Lexeme) := scanFrom? [] s

end Lexeme

end TemplateBundler.Json
