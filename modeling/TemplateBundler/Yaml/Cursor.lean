/-!
# Cursor: a place in a YAML text

The scanner knows how far it has come in characters, lines and columns, since indentation and the
length of keys count. A line break of two characters is one step.
-/

namespace TemplateBundler.Yaml

def isBreak (c : Char) : Bool :=
  c = '\n' || c = '\r' || c.toNat == 0x85 || c.toNat == 0x2028 || c.toNat == 0x2029

/-- How a line break is kept in a text: all but two of them become line feeds. -/
def keptBreak (c : Char) : Char :=
  if c.toNat == 0x2028 || c.toNat == 0x2029 then c else '\n'

def isBlank (c : Char) : Bool := c = ' ' || c = '\t'

def isNameChar (c : Char) : Bool := c.isAlphanum || c = '_' || c = '-'

def endsWord : List Char → Bool
  | [] => true
  | c :: _ => isBlank c || isBreak c

/-- The text begins with a marker of document boundaries: three dashes or three dots by
themselves. -/
def startsMarker : List Char → Bool
  | '-' :: '-' :: '-' :: rest => endsWord rest
  | '.' :: '.' :: '.' :: rest => endsWord rest
  | _ => false

def isAllowed (c : Char) : Bool :=
  let n := c.toNat
  n == 0x09 || n == 0x0A || n == 0x0D || (0x20 ≤ n && n ≤ 0x7E) || n == 0x85 ||
    (0xA0 ≤ n && n ≤ 0xD7FF) || (0xE000 ≤ n && n ≤ 0xFFFD) || 0x10000 ≤ n

/-- The text ahead, the number of characters and lines before it, and the column. -/
structure Cursor where
  rest : List Char
  index : Nat := 0
  line : Nat := 0
  column : Nat := 0

namespace Cursor

def advance (cursor : Cursor) (count : Nat) : Cursor :=
  { cursor with
    rest := cursor.rest.drop count
    index := cursor.index + count
    column := cursor.column + count }

def nextLine (cursor : Cursor) (rest : List Char) (count : Nat) : Cursor :=
  { rest := rest, index := cursor.index + count, line := cursor.line + 1, column := 0 }

def skipWhile (cursor : Cursor) (test : Char → Bool) : Cursor :=
  cursor.advance (cursor.rest.takeWhile test).length

def takeBreak? (cursor : Cursor) : Option (Char × Cursor) :=
  match cursor.rest with
  | '\r' :: '\n' :: rest => some ('\n', cursor.nextLine rest 2)
  | c :: rest => if isBreak c then some (keptBreak c, cursor.nextLine rest 1) else none
  | [] => none

/-- Past blanks, comments and line breaks. The flag tells whether a key may begin here: outside
brackets a line break allows it. As long as a key may begin, tabs are no blanks. A byte order mark
at the beginning of a line counts as a column. -/
def contentAt (inFlow keyAllowed inComment : Bool) (index line column : Nat) :
    List Char → Cursor × Bool
  | [] => (⟨[], index, line, column⟩, keyAllowed)
  | '\r' :: '\n' :: rest =>
    contentAt inFlow (keyAllowed || !inFlow) false (index + 2) (line + 1) 0 rest
  | c :: rest =>
    if isBreak c then contentAt inFlow (keyAllowed || !inFlow) false (index + 1) (line + 1) 0 rest
    else if inComment || c = ' ' || (c = '\t' && (inFlow || !keyAllowed)) ||
        (c.toNat == 0xFEFF && column == 0) then
      contentAt inFlow keyAllowed inComment (index + 1) line (column + 1) rest
    else if c = '#' then contentAt inFlow keyAllowed true (index + 1) line (column + 1) rest
    else (⟨c :: rest, index, line, column⟩, keyAllowed)

def toContent (cursor : Cursor) (inFlow keyAllowed : Bool) : Cursor × Bool :=
  contentAt inFlow keyAllowed false cursor.index cursor.line cursor.column cursor.rest

end Cursor

end TemplateBundler.Yaml
