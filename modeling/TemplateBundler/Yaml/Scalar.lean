import TemplateBundler.Number.Integer
import TemplateBundler.Yaml.Cursor

/-!
# Scalar: texts in a YAML document

A scalar may run over several lines. A single line break becomes a space, further ones are kept,
and blanks around a break are dropped.

* `Yaml.Gap`: blanks and breaks that have been read and not yet joined;
* `Yaml.readPlain?`: a scalar without quotes;
* `Yaml.readSingle?`, `Yaml.readDouble?`: quoted scalars;
* `Yaml.readBlock?`: literal and folded blocks.
-/

namespace TemplateBundler.Yaml

/-! ## Gaps between words -/

inductive Gap where
  | none
  | blanks (done : List Char)
  /-- A first break, if it is kept, and the breaks after it, last first. -/
  | breaks (first : Option Char) (more : List Char)

namespace Gap

def addBlank (gap : Gap) (c : Char) : Gap :=
  match gap with
  | .none => .blanks [c]
  | .blanks done => .blanks (c :: done)
  | .breaks first more => .breaks first more

/-- A line break: the blanks before it do not count. -/
def addBreak (gap : Gap) (c : Char) : Gap :=
  match gap with
  | .none | .blanks _ => .breaks (some c) []
  | .breaks first more => .breaks first (c :: more)

def isOpen : Gap → Bool
  | .none => false
  | _ => true

def hasBreak : Gap → Bool
  | .breaks _ _ => true
  | _ => false

/-- A single line feed is folded into a space; of several the first is dropped. -/
def chars : Gap → List Char
  | .none => []
  | .blanks done => done.reverse
  | .breaks (some '\n') [] => [' ']
  | .breaks (some '\n') more => more.reverse
  | .breaks first more => first.toList ++ more.reverse

def joinTo (gap : Gap) (text : List Char) : List Char := gap.chars.reverse ++ text

end Gap

structure ScalarRead where
  text : String
  cursor : Cursor
  lineEnded : Bool := false

/-! ## Plain scalars -/

def isFlowMark (c : Char) : Bool :=
  c = ',' || c = '[' || c = ']' || c = '\x7b' || c = '\x7d'

def badColon : List Char → Bool
  | ':' :: c :: _ => isFlowMark c || c = '?'
  | _ => false

/-- The text ends a plain scalar: a colon before a blank, or a bracket or comma inside brackets. -/
def endsPlain (inFlow : Bool) : List Char → Bool
  | c :: rest => (c = ':' && endsWord rest) || (inFlow && isFlowMark c)
  | [] => true

/-- A plain scalar from a place inside it, given the text and the gap so far. It ends before less
indented text, a marker, a comment behind a blank, and the characters that `endsPlain` names. -/
def plainFrom? (inFlow : Bool) (indent : Int) (text : List Char) (gap : Gap)
    (index line column : Nat) : List Char → Option ScalarRead
  | [] => some ⟨String.ofList text.reverse, ⟨[], index, line, column⟩, gap.hasBreak⟩
  | '\r' :: '\n' :: rest =>
    plainFrom? inFlow indent text (gap.addBreak '\n') (index + 2) (line + 1) 0 rest
  | c :: rest =>
    if isBreak c then
      plainFrom? inFlow indent text (gap.addBreak (keptBreak c)) (index + 1) (line + 1) 0 rest
    else if isBlank c then
      if gap.hasBreak && (column : Int) < indent && c = '\t' then none
      else plainFrom? inFlow indent text (gap.addBlank c) (index + 1) line (column + 1) rest
    else
      let done : ScalarRead :=
        ⟨String.ofList text.reverse, ⟨c :: rest, index, line, column⟩, gap.hasBreak⟩
      if gap.isOpen && ((!inFlow && (column : Int) < indent) ||
          (column == 0 && startsMarker (c :: rest)) || c = '#') then some done
      else if inFlow && badColon (c :: rest) then none
      else if endsPlain inFlow (c :: rest) then some done
      else plainFrom? inFlow indent (c :: gap.joinTo text) .none (index + 1) line (column + 1) rest

def readPlain? (inFlow : Bool) (indent : Int) (cursor : Cursor) : Option ScalarRead :=
  plainFrom? inFlow (indent + 1) [] .none cursor.index cursor.line cursor.column cursor.rest

/-! ## Quoted scalars -/

def singleFrom? (text : List Char) (gap : Gap) (index line column : Nat) :
    List Char → Option ScalarRead
  | [] => none
  | '\r' :: '\n' :: rest => singleFrom? text (gap.addBreak '\n') (index + 2) (line + 1) 0 rest
  | '\'' :: '\'' :: rest =>
    singleFrom? ('\'' :: gap.joinTo text) .none (index + 2) line (column + 2) rest
  | '\'' :: rest =>
    some ⟨String.ofList (gap.joinTo text).reverse, ⟨rest, index + 1, line, column + 1⟩, false⟩
  | c :: rest =>
    if isBreak c then
      singleFrom? text (gap.addBreak (keptBreak c)) (index + 1) (line + 1) 0 rest
    else if isBlank c then singleFrom? text (gap.addBlank c) (index + 1) line (column + 1) rest
    else if column == 0 && startsMarker (c :: rest) then none
    else singleFrom? (c :: gap.joinTo text) .none (index + 1) line (column + 1) rest

def namedEscape? : Char → Option Char
  | '0' => some (Char.ofNat 0)
  | 'a' => some '\x07'
  | 'b' => some '\x08'
  | 't' => some '\t'
  | '\t' => some '\t'
  | 'n' => some '\n'
  | 'v' => some '\x0b'
  | 'f' => some '\x0c'
  | 'r' => some '\r'
  | 'e' => some '\x1b'
  | ' ' => some ' '
  | '"' => some '"'
  | '/' => some '/'
  | '\\' => some '\\'
  | 'N' => some (Char.ofNat 0x85)
  | '_' => some (Char.ofNat 0xA0)
  | 'L' => some (Char.ofNat 0x2028)
  | 'P' => some (Char.ofNat 0x2029)
  | _ => none

def numberedChar? (digits : List Char) : Option Char := do
  let n ← Integer.natOf? 16 digits
  if (0xD800 ≤ n ∧ n ≤ 0xDFFF) ∨ 0x10FFFF < n then none else some (Char.ofNat n)

/-- A double-quoted scalar from a place inside it: a backslash escapes a character, and a backslash
at the end of a line joins it to the next without a space. -/
def doubleFrom? (text : List Char) (gap : Gap) (index line column : Nat) :
    List Char → Option ScalarRead
  | [] => none
  | '\r' :: '\n' :: rest => doubleFrom? text (gap.addBreak '\n') (index + 2) (line + 1) 0 rest
  | '"' :: rest =>
    some ⟨String.ofList (gap.joinTo text).reverse, ⟨rest, index + 1, line, column + 1⟩, false⟩
  | '\\' :: '\r' :: '\n' :: rest =>
    doubleFrom? (gap.joinTo text) (.breaks .none []) (index + 3) (line + 1) 0 rest
  | '\\' :: 'x' :: a :: b :: rest =>
    match numberedChar? [a, b] with
    | some c => doubleFrom? (c :: gap.joinTo text) .none (index + 4) line (column + 4) rest
    | .none => none
  | '\\' :: 'u' :: a :: b :: c :: d :: rest =>
    match numberedChar? [a, b, c, d] with
    | some c => doubleFrom? (c :: gap.joinTo text) .none (index + 6) line (column + 6) rest
    | .none => none
  | '\\' :: 'U' :: a :: b :: c :: d :: e :: f :: g :: h :: rest =>
    match numberedChar? [a, b, c, d, e, f, g, h] with
    | some c => doubleFrom? (c :: gap.joinTo text) .none (index + 10) line (column + 10) rest
    | .none => none
  | '\\' :: c :: rest =>
    if isBreak c then doubleFrom? (gap.joinTo text) (.breaks .none []) (index + 2) (line + 1) 0 rest
    else
      match namedEscape? c with
      | some c => doubleFrom? (c :: gap.joinTo text) .none (index + 2) line (column + 2) rest
      | .none => none
  | c :: rest =>
    if isBreak c then
      doubleFrom? text (gap.addBreak (keptBreak c)) (index + 1) (line + 1) 0 rest
    else if isBlank c then doubleFrom? text (gap.addBlank c) (index + 1) line (column + 1) rest
    else if column == 0 && startsMarker (c :: rest) then none
    else doubleFrom? (c :: gap.joinTo text) .none (index + 1) line (column + 1) rest

def readSingle? (cursor : Cursor) : Option ScalarRead :=
  let inside := cursor.advance 1
  singleFrom? [] .none inside.index inside.line inside.column inside.rest

def readDouble? (cursor : Cursor) : Option ScalarRead :=
  let inside := cursor.advance 1
  doubleFrom? [] .none inside.index inside.line inside.column inside.rest

/-! ## Blocks -/

inductive Chomping where
  | strip
  | clip
  | keep

/-- A digit of indentation behind a chomping mark. Zero is no indentation. -/
def indentBehind? (chomping : Chomping) : List Char → Option (Chomping × Option Nat × Nat)
  | c :: _ =>
    if Integer.isDigit c then
      if c = '0' then none else some (chomping, some (c.toNat - '0'.toNat), 2)
    else some (chomping, none, 1)
  | [] => some (chomping, none, 1)

def readHeader? : List Char → Option (Chomping × Option Nat × Nat)
  | '+' :: rest => indentBehind? .keep rest
  | '-' :: rest => indentBehind? .strip rest
  | c :: rest =>
    if Integer.isDigit c then
      if c = '0' then none
      else
        let indent := some (c.toNat - '0'.toNat)
        match rest with
        | '+' :: _ => some (.keep, indent, 2)
        | '-' :: _ => some (.strip, indent, 2)
        | _ => some (.clip, indent, 1)
    else some (.clip, none, 0)
  | [] => some (.clip, none, 0)

structure BlockState where
  text : List Char := []
  /-- The break behind the last line. -/
  leading : Option Char := none
  /-- The breaks after that one, last first. -/
  trailing : List Char := []
  wasBlank : Bool := false

/-- The breaks before a line are joined to the text: a folded block turns a single line feed between
lines that do not begin with a blank into a space. -/
def BlockState.beginLine (state : BlockState) (folded : Bool) (startsBlank : Bool) : BlockState :=
  let joined :=
    if folded && state.leading == some '\n' && !state.wasBlank && !startsBlank then
      if state.trailing.isEmpty then ' ' :: state.text else state.text
    else state.leading.toList ++ state.text
  { text := state.trailing ++ joined, leading := none, trailing := [], wasBlank := startsBlank }

def BlockState.endLine (state : BlockState) (inLine : Bool) (kept : Char) : BlockState :=
  if inLine then { state with leading := some kept }
  else { state with trailing := kept :: state.trailing }

def BlockState.finish (state : BlockState) (chomping : Chomping) : String :=
  let tail :=
    match chomping with
    | .strip => []
    | .clip => state.leading.toList
    | .keep => state.trailing ++ state.leading.toList
  String.ofList (tail ++ state.text).reverse

/-- The indentation of a block that does not give it: that of its first line, or of a longer empty
line before it, and deeper than the block around it. `deepest` is the longest empty line so far. -/
def detectIndent (minimum deepest column : Nat) : List Char → Option Nat
  | [] => some (max minimum (max deepest column))
  | ' ' :: rest => detectIndent minimum deepest (column + 1) rest
  | '\r' :: '\n' :: rest => detectIndent minimum (max deepest column) 0 rest
  | c :: rest =>
    if c = '\t' then none
    else if isBreak c then detectIndent minimum (max deepest column) 0 rest
    else some (max minimum (max deepest column))

/-- The lines of a block: `inLine` tells whether the place lies within the content of a line or in
the indentation before it. -/
def blockFrom? (folded : Bool) (chomping : Chomping) (indent : Nat) (state : BlockState)
    (inLine : Bool) (index line column : Nat) : List Char → Option ScalarRead
  | [] => some ⟨state.finish chomping, ⟨[], index, line, column⟩, false⟩
  | '\r' :: '\n' :: rest =>
    blockFrom? folded chomping indent (state.endLine inLine '\n') false (index + 2) (line + 1) 0
      rest
  | c :: rest =>
    if isBreak c then
      blockFrom? folded chomping indent (state.endLine inLine (keptBreak c)) false (index + 1)
        (line + 1) 0 rest
    else if inLine then
      blockFrom? folded chomping indent { state with text := c :: state.text } true (index + 1)
        line (column + 1) rest
    else if column < indent then
      if c = ' ' then
        blockFrom? folded chomping indent state false (index + 1) line (column + 1) rest
      else if c = '\t' then none
      else some ⟨state.finish chomping, ⟨c :: rest, index, line, column⟩, false⟩
    else
      let begun := state.beginLine folded (isBlank c)
      blockFrom? folded chomping indent { begun with text := c :: begun.text } true (index + 1) line
        (column + 1) rest

def readBlock? (folded : Bool) (outer : Int) (cursor : Cursor) : Option ScalarRead := do
  let cursor := cursor.advance 1
  let (chomping, increment, length) ← readHeader? cursor.rest
  let cursor := (cursor.advance length).skipWhile isBlank
  let cursor :=
    match cursor.rest with
    | '#' :: _ => cursor.skipWhile fun c => !isBreak c
    | _ => cursor
  let cursor ←
    match cursor.rest with
    | [] => some cursor
    | _ :: _ => cursor.takeBreak?.map Prod.snd
  let indent ←
    match increment with
    | some n => some (if 0 ≤ outer then outer.toNat + n else n)
    | none => detectIndent (max 1 (outer + 1).toNat) 0 cursor.column cursor.rest
  blockFrom? folded chomping indent {} false cursor.index cursor.line cursor.column cursor.rest

end TemplateBundler.Yaml
