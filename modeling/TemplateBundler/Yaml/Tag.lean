import TemplateBundler.Number.Integer
import TemplateBundler.Yaml.Cursor

/-!
# Tag: declared kinds of YAML nodes

A tag is a row of octets. It is written in full between angle brackets, or as a handle and the rest
of it: a handle stands for the beginning of a tag. Directives at the top of a text give the version
of YAML and the meaning of handles.

* `Yaml.Tag`: tags, those of the core kinds, and local ones;
* `Yaml.readTag?`: a tag as written;
* `Yaml.Handles`, `Yaml.Tag.resolve?`: what handles stand for;
* `Yaml.Directive`, `Yaml.readDirective?`: the directives.
-/

namespace TemplateBundler.Yaml

def asciiOctets (text : String) : List UInt8 := text.toList.map fun c => c.toNat.toUInt8

structure Tag where
  octets : List UInt8
deriving DecidableEq, Repr

namespace Tag

def coreOctets : List UInt8 := asciiOctets "tag:yaml.org,2002:"

def null : Tag := ⟨coreOctets ++ asciiOctets "null"⟩

def bool : Tag := ⟨coreOctets ++ asciiOctets "bool"⟩

def int : Tag := ⟨coreOctets ++ asciiOctets "int"⟩

def float : Tag := ⟨coreOctets ++ asciiOctets "float"⟩

def unspecific : Tag := ⟨asciiOctets "!"⟩

def isMarked (tag : Tag) : Bool := tag.octets.head? == some 0x21

/-- A kind that only the writer of the text knows: it begins with an exclamation mark and is a
text. -/
def isLocal (tag : Tag) : Bool :=
  tag.isMarked && (String.fromUTF8? (ByteArray.mk tag.octets.toArray)).isSome

end Tag

/-! ## Reading tags -/

def isTagChar (inBrackets : Bool) (c : Char) : Bool :=
  isNameChar c || ";/?:@&=+$.!~*'()".toList.contains c ||
    (inBrackets && (c = ',' || c = '[' || c = ']'))

/-- How many octets have to follow an escaped one, given how many were due: a character is escaped
as a whole, in the shape of UTF-8. -/
def octetsDue? (due octet : Nat) : Option Nat :=
  if due ≠ 0 then if octet / 64 = 2 then some (due - 1) else none
  else if octet < 0x80 then some 0
  else if octet / 32 = 6 then some 1
  else if octet / 16 = 14 then some 2
  else if octet / 8 = 30 then some 3
  else none

/-- The octets of a tag from a place inside it, those so far last first, and what follows the tag.
An octet may be written as a percent sign and two digits. -/
def tagOctetsFrom? (inBrackets : Bool) (due : Nat) (done : List UInt8) :
    List Char → Option (List UInt8 × List Char)
  | [] => if due = 0 then some (done.reverse, []) else none
  | '%' :: a :: b :: rest =>
    match (Integer.natOf? 16 [a, b]).bind fun octet =>
        (octetsDue? due octet).map fun due => (octet, due) with
    | some (octet, due) => tagOctetsFrom? inBrackets due (octet.toUInt8 :: done) rest
    | none => none
  | c :: rest =>
    if due ≠ 0 ∨ c = '%' then none
    else if isTagChar inBrackets c then
      tagOctetsFrom? inBrackets 0 (c.toNat.toUInt8 :: done) rest
    else some (done.reverse, c :: rest)

def tagOctets? (inBrackets : Bool) (s : List Char) : Option (List UInt8 × List Char) :=
  (tagOctetsFrom? inBrackets 0 [] s).map fun (octets, rest) => (octets.takeWhile (· ≠ 0), rest)

def someTagOctets? (inBrackets : Bool) (s : List Char) : Option (List UInt8 × List Char) :=
  (tagOctets? inBrackets s).filter fun (_, rest) => rest.length < s.length

structure WrittenTag where
  handle : Option String
  octets : List UInt8
deriving Repr

def readTag? : List Char → Option (WrittenTag × List Char)
  | '!' :: '<' :: rest =>
    match someTagOctets? true rest with
    | some (octets, '>' :: rest) => some (⟨none, octets⟩, rest)
    | _ => none
  | '!' :: rest =>
    let name := rest.takeWhile isNameChar
    match rest.dropWhile isNameChar with
    | '!' :: behind =>
      (someTagOctets? false behind).map fun (octets, rest) =>
        (⟨some (String.ofList ('!' :: name ++ ['!'])), octets⟩, rest)
    | _ =>
      (tagOctets? false rest).map fun (octets, rest) =>
        if octets.isEmpty then (⟨none, Tag.unspecific.octets⟩, rest)
        else (⟨some "!", octets⟩, rest)
  | _ => none

/-! ## Handles -/

/-- What handles stand for; the first entry of a handle counts. -/
abbrev Handles := List (String × List UInt8)

namespace Handles

def implied : Handles := [("!", Tag.unspecific.octets), ("!!", Tag.coreOctets)]

def find? (handles : Handles) (name : String) : Option (List UInt8) :=
  (List.find? (fun entry => entry.1 = name) handles).map Prod.snd

end Handles

def Tag.resolve? (handles : Handles) (written : WrittenTag) : Option Tag :=
  match written.handle with
  | none => some ⟨written.octets⟩
  | some name => (Handles.find? (handles ++ .implied) name).map fun front =>
      ⟨front ++ written.octets⟩

/-! ## Directives -/

inductive Directive where
  | version (major minor : Nat)
  | handle (name : String) (octets : List UInt8)
deriving Repr

def readVersionNumber? (s : List Char) : Option (Nat × List Char) :=
  let digits := s.takeWhile Integer.isDigit
  if digits.length ≤ 9 then
    (Integer.natOf? 10 digits).map fun n => (n, s.dropWhile Integer.isDigit)
  else none

def readVersion? (s : List Char) : Option (Directive × List Char) := do
  let (major, rest) ← readVersionNumber? s
  match rest with
  | '.' :: rest =>
    let (minor, rest) ← readVersionNumber? rest
    some (.version major minor, rest)
  | _ => none

/-- The name of a handle: exclamation marks around a word, or one or two of them alone. -/
def readHandleName? : List Char → Option (String × List Char)
  | '!' :: rest =>
    let name := rest.takeWhile isNameChar
    match rest.dropWhile isNameChar with
    | '!' :: behind => some (String.ofList ('!' :: name ++ ['!']), behind)
    | behind => if name.isEmpty then some ("!", behind) else none
  | _ => none

def readHandle? (s : List Char) : Option (Directive × List Char) := do
  let (name, rest) ← readHandleName? s
  let behind := rest.dropWhile isBlank
  let (octets, after) ← someTagOctets? true behind
  if behind.length < rest.length && endsWord after then some (.handle name octets, after) else none

def readDirective? (s : List Char) : Option (Directive × List Char) := do
  let name := String.ofList (s.takeWhile isNameChar)
  let rest := s.dropWhile isNameChar
  let value := rest.dropWhile isBlank
  let (directive, rest) ←
    if !endsWord rest then none
    else if name = "YAML" then readVersion? value
    else if name = "TAG" then readHandle? value
    else none
  match rest.dropWhile isBlank with
  | [] => some (directive, [])
  | '#' :: comment => some (directive, comment.dropWhile fun c => !isBreak c)
  | c :: rest => if isBreak c then some (directive, c :: rest) else none

end TemplateBundler.Yaml
