import TemplateBundler.Path.Basic

/-!
# Tree: directories, files and links

A tree lists its entries by the names that lead to them from the root. Relative paths are seen from
the root.

* `FileTree`: the entries;
* `FileTree.follow?`: the entry that a path leads to, through links;
* `FileTree.write`, `FileTree.makeDirectory`, `FileTree.link`, `FileTree.remove`: changes;
* `FileTree.readText?`: the text of a file;
* `FileTree.directory?`, `FileTree.entryNames`: directories and what they hold.
-/

namespace TemplateBundler

/-- The names that lead to an entry, the outermost first. -/
abbrev Location := List (List Char)

instance : LawfulBEq Location := inferInstance

inductive FileNode where
  | directory
  | file (content : List UInt8)
  | link (target : List Char)
deriving DecidableEq, Repr

structure FileTree where
  entries : List (Location × FileNode) := []

namespace FileTree

def nodeAt? (tree : FileTree) (location : Location) : Option FileNode :=
  if location = [] then some .directory
  else (tree.entries.find? fun entry => entry.1 = location).map Prod.snd

/-! ## Following paths -/

def maxLinks : Nat := 40

/-- The location that the segments lead to from the directory `here`; `none` if something on the
way is missing, is a file, or too many links have been followed. A segment after a file, even an
empty one, asks for a directory. -/
def followFrom? (tree : FileTree) (links : Nat) (here : Location) (segments : List (List Char)) :
    Option Location :=
  match segments with
  | [] => some here
  | segment :: rest =>
    if segment = [] ∨ segment = ['.'] then tree.followFrom? links here rest
    else if segment = ['.', '.'] then tree.followFrom? links here.dropLast rest
    else
      match tree.nodeAt? (here ++ [segment]) with
      | none => none
      | some .directory => tree.followFrom? links (here ++ [segment]) rest
      | some (.file _) => if rest = [] then some (here ++ [segment]) else none
      | some (.link target) =>
        match links with
        | 0 => none
        | fewer + 1 =>
          tree.followFrom? fewer (if Path.isAbsolute target then [] else here)
            (Path.segments target ++ rest)
termination_by (links, segments.length)

def follow? (tree : FileTree) (path : List Char) : Option Location :=
  if path = [] then none else tree.followFrom? maxLinks [] (Path.segments path)

/-! ## Changes

A change goes to the place that the path leads to: a link on the way is followed, and two dots lead
to the directory above. What cannot be changed stays as it is. -/

def steps (segments : List (List Char)) : List (List Char) :=
  segments.filter fun segment => segment ≠ [] ∧ segment ≠ ['.']

/-- The steps to the directory that holds the entry at the end of a path, and the name of the entry.
A path that ends with a slash or with dots names a directory by other means and has none. -/
def splitEnd? (path : String) : Option (List (List Char) × List Char) :=
  let segments := Path.segments path.toList
  segments.getLast?.bind fun name =>
    if name = [] ∨ name = ['.'] ∨ name = ['.', '.'] then none
    else some (steps segments.dropLast, name)

def removeAt (tree : FileTree) (location : Location) : FileTree :=
  { entries := tree.entries.filter fun entry => entry.1 ≠ location }

def putAt (tree : FileTree) (location : Location) (node : FileNode) : FileTree :=
  { entries := (tree.removeAt location).entries ++ [(location, node)] }

def openFrom? (tree : FileTree) (here : Location) :
    (steps : List (List Char)) → Option (FileTree × Location)
  | [] => some (tree, here)
  | step :: rest =>
    if step = ['.', '.'] then tree.openFrom? here.dropLast rest
    else
      match tree.nodeAt? (here ++ [step]) with
      | none => (tree.putAt (here ++ [step]) .directory).openFrom? (here ++ [step]) rest
      | some .directory => tree.openFrom? (here ++ [step]) rest
      | some (.file _) => none
      | some (.link _) =>
        match tree.followFrom? maxLinks here [step] with
        | some there =>
          if tree.nodeAt? there = some .directory then tree.openFrom? there rest else none
        | none => none

/-- Something new at the end of a path, its parents made as needed; a directory stays. -/
def put (tree : FileTree) (path : String) (node : FileNode) : FileTree :=
  match splitEnd? path with
  | none => tree
  | some (above, name) =>
    match tree.openFrom? [] above with
    | none => tree
    | some (tree, parent) =>
      if tree.nodeAt? (parent ++ [name]) = some .directory then tree
      else tree.putAt (parent ++ [name]) node

def write (tree : FileTree) (path : String) (content : List UInt8) : FileTree :=
  tree.put path (.file content)

def link (tree : FileTree) (path target : String) : FileTree := tree.put path (.link target.toList)

def makeDirectory (tree : FileTree) (path : String) : FileTree :=
  match tree.openFrom? [] (steps (Path.segments path.toList)) with
  | some (tree, _) => tree
  | none => tree

/-- The tree without the file or link at the end of a path. A directory stays, and so does what a
link leads to. -/
def remove (tree : FileTree) (path : String) : FileTree :=
  match splitEnd? path with
  | none => tree
  | some (above, name) =>
    match tree.followFrom? maxLinks [] above with
    | none => tree
    | some parent =>
      if tree.nodeAt? (parent ++ [name]) = some .directory then tree
      else tree.removeAt (parent ++ [name])

/-! ## Reading -/

def bytes? (tree : FileTree) (path : String) : Option (List UInt8) :=
  match (tree.follow? path.toList).bind tree.nodeAt? with
  | some (.file content) => some content
  | _ => none

def readText? (tree : FileTree) (path : String) : Option String :=
  (tree.bytes? path).bind fun content => String.fromUTF8? (ByteArray.mk content.toArray)

def directories (tree : FileTree) : List Location :=
  [] :: (tree.entries.filter fun entry => entry.2 = .directory).map Prod.fst

def directory? (tree : FileTree) (path : String) : Option Location :=
  (tree.follow? path.toList).filter fun location => location ∈ tree.directories

def entryNames (tree : FileTree) (directory : Location) : List (List Char) :=
  let names := tree.entries.filterMap fun entry =>
    if entry.1.dropLast = directory then entry.1.getLast? else none
  names.mergeSort fun a b => Path.compareChars a b != .gt

end FileTree

end TemplateBundler
