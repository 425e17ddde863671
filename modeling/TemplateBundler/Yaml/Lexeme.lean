import TemplateBundler.Entries
import TemplateBundler.Yaml.Scalar
import TemplateBundler.Yaml.Tag

/-!
# Lexeme: the words of a YAML text

Indentation and keys without a mark are made explicit: a block begins where the text is indented
more deeply, and the mark of a key is put before it once its colon has been read. Names stay behind:
a tag comes with what its handle stands for, and anchors and references come as numbers.

* `Yaml.Lexeme`: the words;
* `Yaml.Scanner`: the place reached, the indentations, and the keys that may still turn out to be
  keys;
* `Yaml.scan?`: the lexemes of a text.
-/

namespace TemplateBundler.Yaml

inductive Lexeme where
  | directive
  | documentStart
  | documentEnd
  | streamEnd
  | blockSequence
  | blockMapping
  | blockEnd
  | openBracket
  | closeBracket
  | openBrace
  | closeBrace
  | entry
  | comma
  | key
  | colon
  | reference (id : Nat)
  | anchor (id : Nat)
  | tag (tag : Tag)
  | scalar (text : String) (plain : Bool)
deriving Repr

/-- A place where a key may have begun. -/
structure KeyPlace where
  position : Nat
  index : Nat
  line : Nat
  column : Nat
  /-- A colon has to follow. -/
  required : Bool

structure Scanner where
  cursor : Cursor
  lexemes : List Lexeme := []
  count : Nat := 0
  /-- The column of the block at hand, and of those around it. -/
  indent : Int := -1
  outer : List Int := []
  keyAllowed : Bool := true
  /-- The possible key of each open bracket, and last of the block. -/
  keys : List (Option KeyPlace) := [none]
  anchors : Entries Nat := []
  versioned : Bool := false
  handles : Handles := []

namespace Scanner

def inFlow (s : Scanner) : Bool := 1 < s.keys.length

def emit (s : Scanner) (lexeme : Lexeme) : Scanner :=
  { s with lexemes := lexeme :: s.lexemes, count := s.count + 1 }

def insertAt (s : Scanner) (position : Nat) (lexeme : Lexeme) : Scanner :=
  let later := s.count - position
  { s with
    lexemes := s.lexemes.take later ++ lexeme :: s.lexemes.drop later
    count := s.count + 1 }

def skip (s : Scanner) (count : Nat) : Scanner := { s with cursor := s.cursor.advance count }

/-! ## Indentation -/

def openBlock (s : Scanner) (column : Nat) (position : Nat) (lexeme : Lexeme) : Scanner :=
  if !s.inFlow && s.indent < (column : Int) then
    { s with indent := column, outer := s.indent :: s.outer }.insertAt position lexeme
  else s

/-- The blocks that end before `column`, from the innermost on; `outer` holds the columns around. -/
def closeFrom (column : Int) (s : Scanner) : (outer : List Int) → Scanner
  | [] => s
  | indent :: outer =>
    if column < s.indent then
      closeFrom column { s.emit .blockEnd with indent := indent, outer := outer } outer
    else s

def closeBlocks (s : Scanner) (column : Int) : Scanner :=
  if s.inFlow then s else closeFrom column s s.outer

/-! ## Keys without a mark -/

def dropKey? (s : Scanner) : Option Scanner :=
  match s.keys with
  | some place :: rest => if place.required then none else some { s with keys := none :: rest }
  | _ => some s

/-- A key may begin here. It has to be one if it stands where an entry of the block begins. -/
def saveKey? (s : Scanner) : Option Scanner :=
  if s.keyAllowed then do
    let required := !s.inFlow && s.indent == (s.cursor.column : Int)
    let place : KeyPlace := ⟨s.count, s.cursor.index, s.cursor.line, s.cursor.column, required⟩
    let s ← s.dropKey?
    some { s with keys := some place :: s.keys.tail }
  else some s

/-- The possible key of the innermost bracket, if it is still one: on the same line and not too
far back. An error if it has to be one and is not. -/
def validKey? (s : Scanner) : Option (Option KeyPlace) :=
  match s.keys with
  | some place :: _ =>
    if place.line < s.cursor.line || place.index + 1024 < s.cursor.index then
      if place.required then none else some none
    else some (some place)
  | _ => some none

/-! ## Lexemes -/

def takeMarker? (s : Scanner) (lexeme : Lexeme) : Option Scanner := do
  let s ← (s.closeBlocks (-1)).dropKey?
  some ({ s with keyAllowed := false }.skip 3 |>.emit lexeme)

def takeEnd? (s : Scanner) : Option Scanner := do
  let s ← (s.closeBlocks (-1)).dropKey?
  some (s.emit .streamEnd)

def takeOpen? (s : Scanner) (lexeme : Lexeme) : Option Scanner := do
  let s ← s.saveKey?
  some ({ s with keys := none :: s.keys, keyAllowed := true }.skip 1 |>.emit lexeme)

def takeClose? (s : Scanner) (lexeme : Lexeme) : Option Scanner := do
  let s ← s.dropKey?
  let keys := if s.inFlow then s.keys.tail else s.keys
  some ({ s with keys := keys, keyAllowed := false }.skip 1 |>.emit lexeme)

def takeComma? (s : Scanner) : Option Scanner := do
  let s ← s.dropKey?
  some ({ s with keyAllowed := true }.skip 1 |>.emit .comma)

def takeEntry? (s : Scanner) : Option Scanner := do
  let s ←
    if s.inFlow then some s
    else if s.keyAllowed then some (s.openBlock s.cursor.column s.count .blockSequence)
    else none
  let s ← s.dropKey?
  some ({ s with keyAllowed := true }.skip 1 |>.emit .entry)

def takeKey? (s : Scanner) : Option Scanner := do
  let s ←
    if s.inFlow then some s
    else if s.keyAllowed then some (s.openBlock s.cursor.column s.count .blockMapping)
    else none
  let s ← s.dropKey?
  some ({ s with keyAllowed := !s.inFlow }.skip 1 |>.emit .key)

def takeColon? (s : Scanner) : Option Scanner := do
  match ← s.validKey? with
  | some place =>
    let s := (s.insertAt place.position .key).openBlock place.column place.position .blockMapping
    some ({ s with keys := none :: s.keys.tail, keyAllowed := false }.skip 1 |>.emit .colon)
  | none =>
    let s ←
      if s.inFlow then some s
      else if s.keyAllowed then some (s.openBlock s.cursor.column s.count .blockMapping)
      else none
    some ({ s with keys := none :: s.keys.tail, keyAllowed := !s.inFlow }.skip 1 |>.emit .colon)

def endsName : List Char → Bool
  | c :: rest =>
    endsWord (c :: rest) || c = '?' || c = ':' || c = ',' || c = ']' || c = '\x7d' || c = '%' ||
      c = '@' || c.toNat == 0x60
  | [] => true

def takeName? (s : Scanner) : Option (String × Scanner) := do
  let s ← s.saveKey?
  let name := (s.cursor.rest.drop 1).takeWhile isNameChar
  let behind := s.skip (name.length + 1)
  if name.isEmpty || !endsName behind.cursor.rest then none
  else some (String.ofList name, { behind with keyAllowed := false })

/-- An anchor. Its number is that of the names known before it, so a name that is given anew may
share its number with the next new one. -/
def takeAnchor? (s : Scanner) : Option Scanner := do
  let (name, s) ← s.takeName?
  let id := s.anchors.length
  some ({ s with anchors := Entries.put name id s.anchors }.emit (.anchor id))

def takeReference? (s : Scanner) : Option Scanner := do
  let (name, s) ← s.takeName?
  (Entries.valueOf? name s.anchors).map fun id => s.emit (.reference id)

def takeTag? (s : Scanner) : Option Scanner := do
  let s ← s.saveKey?
  let (written, rest) ← readTag? s.cursor.rest
  let tag ← Tag.resolve? s.handles written
  if endsWord rest || (s.inFlow && rest.head? == some ',') then
    let behind := s.skip (s.cursor.rest.length - rest.length)
    some ({ behind with keyAllowed := false }.emit (.tag tag))
  else none

/-- What a directive says is noted. The version is given once and is 1.1 or 1.2; a handle is defined
once. -/
def note? (s : Scanner) : Directive → Option Scanner
  | .version major minor =>
    if !s.versioned && major = 1 && (minor = 1 || minor = 2) then
      some { s with versioned := true }
    else none
  | .handle name octets =>
    if (s.handles.find? name).isSome then none
    else some { s with handles := s.handles ++ [(name, octets)] }

def takeDirective? (s : Scanner) : Option Scanner := do
  let s ← (s.closeBlocks (-1)).dropKey?
  let (directive, rest) ← readDirective? (s.cursor.rest.drop 1)
  let s ← s.note? directive
  let s := s.skip (s.cursor.rest.length - rest.length)
  let cursor := (s.cursor.takeBreak?.map Prod.snd).getD s.cursor
  some ({ s with cursor := cursor, keyAllowed := false }.emit .directive)

def takeQuoted? (s : Scanner) (read : Cursor → Option ScalarRead) : Option Scanner := do
  let s ← s.saveKey?
  let scalar ← read s.cursor
  some ({ s with cursor := scalar.cursor, keyAllowed := false }.emit (.scalar scalar.text false))

/-- A plain scalar, which may be a key. If its line has ended, a key may follow. -/
def takePlain? (s : Scanner) : Option Scanner := do
  let s ← s.saveKey?
  let scalar ← readPlain? s.inFlow s.indent s.cursor
  some ({ s with cursor := scalar.cursor, keyAllowed := scalar.lineEnded }.emit
    (.scalar scalar.text true))

def takeBlock? (s : Scanner) (folded : Bool) : Option Scanner := do
  let s ← s.dropKey?
  let scalar ← readBlock? folded s.indent s.cursor
  some ({ s with cursor := scalar.cursor, keyAllowed := true }.emit (.scalar scalar.text false))

def isIndicator (c : Char) : Bool :=
  "-?:,[]#&*!|>'\"%@".toList.contains c || c = '\x7b' || c = '\x7d' || c.toNat == 0x60

/-- The text begins a plain scalar: with no indicator, or with a dash, and outside brackets also a
question mark or colon, that no blank follows. -/
def startsPlain (inFlow : Bool) : List Char → Bool
  | c :: rest =>
    (!endsWord (c :: rest) && !isIndicator c) ||
      (c = '-' && (match rest with | d :: _ => !isBlank d | [] => true)) ||
      (!inFlow && (c = '?' || c = ':') && !endsWord rest)
  | [] => false

def take? (s : Scanner) : Option Scanner :=
  let text := s.cursor.rest
  match text with
  | [] => s.takeEnd?
  | c :: rest =>
    if s.cursor.column == 0 && c = '%' then s.takeDirective?
    else if s.cursor.column == 0 && startsMarker text then
      s.takeMarker? (if c = '-' then .documentStart else .documentEnd)
    else if c = '[' then s.takeOpen? .openBracket
    else if c = '\x7b' then s.takeOpen? .openBrace
    else if c = ']' then s.takeClose? .closeBracket
    else if c = '\x7d' then s.takeClose? .closeBrace
    else if c = ',' then s.takeComma?
    else if c = '-' && endsWord rest then s.takeEntry?
    else if c = '?' && (s.inFlow || endsWord rest) then s.takeKey?
    else if c = ':' && (s.inFlow || endsWord rest) then s.takeColon?
    else if c = '*' then s.takeReference?
    else if c = '&' then s.takeAnchor?
    else if c = '!' then s.takeTag?
    else if c = '|' && !s.inFlow then s.takeBlock? false
    else if c = '>' && !s.inFlow then s.takeBlock? true
    else if c = '\'' then s.takeQuoted? readSingle?
    else if c = '"' then s.takeQuoted? readDouble?
    else if startsPlain s.inFlow text then s.takePlain?
    else none

def next? (s : Scanner) : Option Scanner :=
  let (cursor, keyAllowed) := s.cursor.toContent s.inFlow s.keyAllowed
  let s := { s with cursor := cursor, keyAllowed := keyAllowed }
  (s.closeBlocks cursor.column).take?

/-- All lexemes up to the end of a text of `total` characters. Every lexeme but the last takes a
character. -/
def run? (total : Nat) (s : Scanner) : Option (List Lexeme) :=
  match s.next? with
  | none => none
  | some after =>
    match after.lexemes with
    | .streamEnd :: _ => some after.lexemes.reverse
    | _ =>
      if _h : s.cursor.index < after.cursor.index ∧ s.cursor.index < total then run? total after
      else none
termination_by total - s.cursor.index
decreasing_by omega

end Scanner

def scan? (text : List Char) : Option (List Lexeme) :=
  if text.all isAllowed then Scanner.run? text.length { cursor := { rest := text } } else none

end TemplateBundler.Yaml
