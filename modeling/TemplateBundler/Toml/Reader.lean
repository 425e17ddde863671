import TemplateBundler.Toml.Lexical
import TemplateBundler.Toml.Table

/-!
# Reader: TOML documents

A document is read statement by statement: a header names the table at hand, and entries are put
into it. The fields that come out have their keys in order at every depth.
-/

namespace TemplateBundler.Toml

abbrev ValueReader := List Char → Option (Json × List Char)

/-- The elements of an array behind its bracket or a comma, at most `fuel` of them. Comments and
line ends may stand between them, and a comma behind the last. -/
def readElements? (read : ValueReader) : Nat → List Char → Option (List Json × List Char)
  | 0, _ => none
  | fuel + 1, s => do
    let s ← skipLines? s
    match s with
    | ']' :: rest => some ([], rest)
    | _ =>
      let (value, s) ← read s
      let s ← skipLines? s
      match s with
      | ',' :: rest =>
        (readElements? read fuel rest).map fun (values, rest) => (value :: values, rest)
      | ']' :: rest => some ([value], rest)
      | _ => none

/-- A key and its value, with what `skip?` passes over around the equals sign. -/
def readEntry? (skip? : List Char → Option (List Char)) (read : ValueReader) (s : List Char) :
    Option (List String × Json × List Char) := do
  let (path, s) ← readKey? s
  let s ← skip? s
  match s with
  | '=' :: rest =>
    let s ← skip? rest
    let (value, s) ← read s
    some (path, value, s)
  | _ => none

def readInline? (read : ValueReader) : Nat → Items → List Char → Option (Items × List Char)
  | 0, _, _ => none
  | fuel + 1, entries, s => do
    let s ← skipLines? s
    match s with
    | '\x7d' :: rest => some (entries, rest)
    | _ =>
      let (path, value, s) ← readEntry? skipLines? read s
      let entries ← putValue? true entries path value
      let s ← skipLines? s
      match s with
      | ',' :: rest => readInline? read fuel entries rest
      | '\x7d' :: rest => some (entries, rest)
      | _ => none

def readScalar? : ValueReader
  | '"' :: s => (readString? ('"' :: s)).map fun (text, rest) => (.string text, rest)
  | '\'' :: s => (readString? ('\'' :: s)).map fun (text, rest) => (.string text, rest)
  | s => readWord? s

def readValue? : Nat → ValueReader
  | 0, s => readScalar? s
  | depth + 1, s =>
    match s with
    | '[' :: rest =>
      (readElements? (readValue? depth) (rest.length + 1) rest).map fun (values, rest) =>
        (.array values, rest)
    | '\x7b' :: rest =>
      (readInline? (readValue? depth) (rest.length + 1) [] rest).map fun (entries, rest) =>
        ((Item.table .dotted entries).toJson, rest)
    | _ => readScalar? s

def maxDepth : Nat := 80

/-! ## Documents -/

structure Document where
  entries : Items := []
  path : List String := []

def readHeader? (document : Document) : List Char → Option (Document × List Char)
  | '[' :: s => do
    let (path, s) ← readKey? (skipBlanks s)
    match s with
    | ']' :: ']' :: rest =>
      let entries ← defineElement? document.entries path
      some (⟨entries, path⟩, rest)
    | _ => none
  | s => do
    let (path, s) ← readKey? (skipBlanks s)
    match s with
    | ']' :: rest =>
      let entries ← defineTable? document.entries path
      some (⟨entries, path⟩, rest)
    | _ => none

def readStatement? (document : Document) : List Char → Option (Document × List Char)
  | '[' :: s => readHeader? document s
  | s => do
    let (path, value, rest) ← readEntry? (some ∘ skipBlanks) (readValue? maxDepth) s
    let entries ← modifyAt? (fun entries => putValue? true entries path value) document.entries
      document.path
    some ({ document with entries := entries }, rest)

/-- The document of a text of at most `fuel` statements. Each ends with its line. -/
def readFrom? : Nat → Document → List Char → Option Document
  | 0, _, _ => none
  | fuel + 1, document, s => do
    let s ← skipLines? s
    match s with
    | [] => some document
    | _ =>
      let (document, s) ← readStatement? document s
      let s ← toLineEnd? s
      readFrom? fuel document s

def dropMark : List Char → List Char
  | c :: rest => if c.toNat == 0xFEFF then rest else c :: rest
  | [] => []

/-- The fields of a document, keys in order at every depth. -/
def read? (text : List Char) : Option (List (String × Json)) :=
  let text := dropMark text
  (readFrom? (text.length + 1) {} text).map fun document => sortFields (itemFields document.entries)

end TemplateBundler.Toml
