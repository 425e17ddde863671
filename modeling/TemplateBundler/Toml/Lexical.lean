import TemplateBundler.Number.FloatText
import TemplateBundler.Path.Basic
import TemplateBundler.Toml.Moment

/-!
# Lexical: keys, strings and numbers of TOML

* `Toml.skipBlanks`, `Toml.skipLines?`: blanks within a line, and comments and line ends;
* `Toml.readString?`: a string in any of its four notations;
* `Toml.readKey?`: a dotted key;
* `Toml.readWord?`: booleans, numbers, dates and times.
-/

namespace TemplateBundler.Toml

/-! ## Blanks and comments -/

def isBlank (c : Char) : Bool := c = ' ' || c = '\t'

def skipBlanks (s : List Char) : List Char := s.dropWhile isBlank

def isControl (c : Char) : Bool := (c.toNat < 0x20 && c ≠ '\t') || c.toNat == 0x7F

def skipComment? : List Char → Option (List Char)
  | [] => some []
  | '\n' :: rest => some ('\n' :: rest)
  | '\r' :: '\n' :: rest => some ('\r' :: '\n' :: rest)
  | c :: rest => if isControl c then none else skipComment? rest

def toLineEnd? (s : List Char) : Option (List Char) :=
  match skipBlanks s with
  | [] => some []
  | '#' :: rest => skipComment? rest
  | '\n' :: rest => some ('\n' :: rest)
  | '\r' :: '\n' :: rest => some ('\r' :: '\n' :: rest)
  | _ => none

def skipAtMost? : Nat → List Char → Option (List Char)
  | 0, _ => none
  | fuel + 1, s =>
    match skipBlanks s with
    | '#' :: rest => (skipComment? rest).bind (skipAtMost? fuel)
    | '\n' :: rest => skipAtMost? fuel rest
    | '\r' :: '\n' :: rest => skipAtMost? fuel rest
    | rest => some rest

/-- Behind blanks, comments and line ends. Every round but the last takes a character. -/
def skipLines? (s : List Char) : Option (List Char) := skipAtMost? (s.length + 1) s

/-! ## Strings -/

def namedEscape? : Char → Option Char
  | 'b' => some '\x08'
  | 't' => some '\t'
  | 'n' => some '\n'
  | 'f' => some '\x0c'
  | 'r' => some '\r'
  | 'e' => some '\x1b'
  | '"' => some '"'
  | '\\' => some '\\'
  | _ => none

def numberedChar? (digits : List Char) : Option Char := do
  let n ← Integer.natOf? 16 digits
  if (0xD800 ≤ n ∧ n ≤ 0xDFFF) ∨ 0x10FFFF < n then none else some (Char.ofNat n)

def basicFrom? (done : List Char) : List Char → Option (String × List Char)
  | [] => none
  | '"' :: rest => some (String.ofList done.reverse, rest)
  | '\\' :: 'x' :: a :: b :: rest =>
    match numberedChar? [a, b] with
    | some c => basicFrom? (c :: done) rest
    | none => none
  | '\\' :: 'u' :: a :: b :: c :: d :: rest =>
    match numberedChar? [a, b, c, d] with
    | some c => basicFrom? (c :: done) rest
    | none => none
  | '\\' :: 'U' :: a :: b :: c :: d :: e :: f :: g :: h :: rest =>
    match numberedChar? [a, b, c, d, e, f, g, h] with
    | some c => basicFrom? (c :: done) rest
    | none => none
  | '\\' :: c :: rest =>
    match namedEscape? c with
    | some c => basicFrom? (c :: done) rest
    | none => none
  | c :: rest => if isControl c || c = '\\' then none else basicFrom? (c :: done) rest

def literalFrom? (done : List Char) : List Char → Option (String × List Char)
  | [] => none
  | '\'' :: rest => some (String.ofList done.reverse, rest)
  | c :: rest => if isControl c then none else literalFrom? (c :: done) rest

/-- The text behind a backslash at the end of a line: blanks and line ends up to the next content
are dropped. At least one line end has to be among them. -/
def skipFolded? (lineEnded : Bool) : List Char → Option (List Char)
  | '\n' :: rest => skipFolded? true rest
  | '\r' :: '\n' :: rest => skipFolded? true rest
  | c :: rest =>
    if isBlank c then skipFolded? lineEnded rest
    else if lineEnded then some (c :: rest) else none
  | [] => if lineEnded then some [] else none

/-- The closing quotes of a string over several lines: up to two more quotes belong to the text. -/
def closing? (quote : Char) (s : List Char) : Option (List Char × List Char) :=
  let count := (s.takeWhile (· = quote)).length
  if count < 3 then none
  else
    let kept := min (count - 3) 2
    some (List.replicate kept quote, s.drop (kept + 3))

/-- A basic string over several lines, reading at most `fuel` characters. Line ends are kept as they
are written. -/
def longBasicFrom? : Nat → List Char → List Char → Option (String × List Char)
  | 0, _, _ => none
  | fuel + 1, done, s =>
    match closing? '"' s with
    | some (kept, rest) => some (String.ofList (kept ++ done).reverse, rest)
    | none =>
      match s with
      | [] => none
      | '\r' :: '\n' :: rest => longBasicFrom? fuel ('\n' :: '\r' :: done) rest
      | '\n' :: rest => longBasicFrom? fuel ('\n' :: done) rest
      | '\\' :: 'x' :: a :: b :: rest =>
        (numberedChar? [a, b]).bind fun c => longBasicFrom? fuel (c :: done) rest
      | '\\' :: 'u' :: a :: b :: c :: d :: rest =>
        (numberedChar? [a, b, c, d]).bind fun c => longBasicFrom? fuel (c :: done) rest
      | '\\' :: 'U' :: a :: b :: c :: d :: e :: f :: g :: h :: rest =>
        (numberedChar? [a, b, c, d, e, f, g, h]).bind fun c => longBasicFrom? fuel (c :: done) rest
      | '\\' :: c :: rest =>
        match namedEscape? c with
        | some c => longBasicFrom? fuel (c :: done) rest
        | none => (skipFolded? false (c :: rest)).bind (longBasicFrom? fuel done)
      | c :: rest => if isControl c || c = '\\' then none else longBasicFrom? fuel (c :: done) rest

def longLiteralFrom? : Nat → List Char → List Char → Option (String × List Char)
  | 0, _, _ => none
  | fuel + 1, done, s =>
    match closing? '\'' s with
    | some (kept, rest) => some (String.ofList (kept ++ done).reverse, rest)
    | none =>
      match s with
      | [] => none
      | '\r' :: '\n' :: rest => longLiteralFrom? fuel ('\n' :: '\r' :: done) rest
      | '\n' :: rest => longLiteralFrom? fuel ('\n' :: done) rest
      | c :: rest => if isControl c then none else longLiteralFrom? fuel (c :: done) rest

def dropLineEnd : List Char → List Char
  | '\n' :: rest => rest
  | '\r' :: '\n' :: rest => rest
  | s => s

def readString? : List Char → Option (String × List Char)
  | '"' :: '"' :: '"' :: rest => longBasicFrom? (rest.length + 1) [] (dropLineEnd rest)
  | '\'' :: '\'' :: '\'' :: rest => longLiteralFrom? (rest.length + 1) [] (dropLineEnd rest)
  | '"' :: rest => basicFrom? [] rest
  | '\'' :: rest => literalFrom? [] rest
  | _ => none

/-! ## Keys -/

def isBareChar (c : Char) : Bool := c.isAlphanum || c = '_' || c = '-'

def readPart? (s : List Char) : Option (String × List Char) :=
  match s with
  | '"' :: rest => basicFrom? [] rest
  | '\'' :: rest => literalFrom? [] rest
  | _ =>
    let word := s.takeWhile isBareChar
    if word.isEmpty then none else some (String.ofList word, s.dropWhile isBareChar)

def readParts? : (count : Nat) → List Char → Option (List String × List Char)
  | 0, _ => none
  | count + 1, s => do
    let (part, rest) ← readPart? s
    match skipBlanks rest with
    | '.' :: more =>
      let (parts, rest) ← readParts? count (skipBlanks more)
      some (part :: parts, rest)
    | rest => some ([part], rest)

def maxKeyParts : Nat := 80

def readKey? (s : List Char) : Option (List String × List Char) := readParts? maxKeyParts s

/-! ## Booleans, numbers, dates and times -/

/-- Digits with single underscores between them, the underscores taken out. -/
def plainDigits? (isDigit : Char → Bool) : List Char → Option (List Char)
  | [] => none
  | [c] => if isDigit c then some [c] else none
  | c :: '_' :: rest =>
    if isDigit c then (plainDigits? isDigit rest).map (c :: ·) else none
  | c :: rest => if isDigit c then (plainDigits? isDigit rest).map (c :: ·) else none

def wholeDigits? (s : List Char) : Option (List Char) :=
  match plainDigits? Integer.isDigit s with
  | some ('0' :: _ :: _) => none
  | digits => digits

def splitSign : List Char → Bool × List Char
  | '-' :: rest => (true, rest)
  | '+' :: rest => (false, rest)
  | s => (false, s)

def within128? (n : Int) : Option Int :=
  if -Int.pow 2 127 ≤ n ∧ n < Int.pow 2 128 then some n else none

def based? (base : Nat) (digits : List Char) : Option Int :=
  ((plainDigits? (fun c => (Integer.digitOf? base c).isSome) digits).bind
    (Integer.natOf? base)).bind fun n => within128? n

def integer? (s : List Char) : Option Int :=
  match s with
  | '0' :: 'x' :: rest => based? 16 rest
  | '0' :: 'o' :: rest => based? 8 rest
  | '0' :: 'b' :: rest => based? 2 rest
  | _ =>
    let (negative, magnitude) := splitSign s
    ((wholeDigits? magnitude).bind (Integer.natOf? 10)).bind fun n =>
      within128? (if negative then -(n : Int) else n)

def exponent? : List Char → Option (List Char)
  | 'e' :: rest | 'E' :: rest =>
    let (negative, digits) := splitSign rest
    (plainDigits? Integer.isDigit digits).map fun digits =>
      'e' :: (if negative then '-' else '+') :: digits
  | _ => none

/-- The part behind the digits of a float, without underscores: a point with digits, an exponent,
or both. -/
def floatTail? : List Char → Option (List Char)
  | '.' :: rest =>
    let isPart := fun c => Integer.isDigit c || c = '_'
    let behind := rest.dropWhile isPart
    (plainDigits? Integer.isDigit (rest.takeWhile isPart)).bind fun digits =>
      if behind.isEmpty then some ('.' :: digits)
      else (exponent? behind).map fun power => '.' :: digits ++ power
  | s => exponent? s

def float? (s : List Char) : Option Binary64 := do
  let (negative, magnitude) := splitSign s
  let isWhole := fun c => Integer.isDigit c || c = '_'
  let whole ← wholeDigits? (magnitude.takeWhile isWhole)
  let tail ← floatTail? (magnitude.dropWhile isWhole)
  let value ← Binary64.magnitude? (whole ++ tail)
  some { value with negative := negative }

/-- The value of a word: a boolean, a number, a date or a time. Infinities and what is no number
have no JSON number. -/
def word? (s : List Char) : Option Json :=
  let text := String.ofList s
  if text = "true" then some (.bool true)
  else if text = "false" then some (.bool false)
  else if ["inf", "+inf", "-inf", "nan", "+nan", "-nan"].contains text then some .null
  else
    match integer? s, float? s with
    | some n, _ => some (.number (.int n))
    | none, some x => some (.number (.float x))
    | none, none => (Moment.ofText? s).map Moment.toJson

def isWordChar (c : Char) : Bool :=
  c.isAlphanum || c = '_' || c = '-' || c = '+' || c = '.' || c = ':'

/-- The word at the front of the text and what follows it. A space may divide a date from a time
that follows it. -/
def splitWord (s : List Char) : List Char × List Char :=
  let word := s.takeWhile isWordChar
  let rest := s.dropWhile isWordChar
  match readDate? word, rest with
  | some (_, []), ' ' :: c :: more =>
    if Integer.isDigit c then
      (word ++ ' ' :: (c :: more).takeWhile isWordChar, (c :: more).dropWhile isWordChar)
    else (word, rest)
  | _, _ => (word, rest)

def readWord? (s : List Char) : Option (Json × List Char) :=
  let (word, rest) := splitWord s
  (word? word).map fun value => (value, rest)

end TemplateBundler.Toml
