import TemplateBundler.Failure
import TemplateBundler.Files.Tree
import TemplateBundler.Namespaces

/-!
# Discovery: the templates below a directory

Links to directories are followed. A directory that is met again below itself is an error; one that
is met twice side by side is listed under both names.

* `FileTree.Listing`: an order in which directories name their entries;
* `FileTree.collect`: the templates among the entries of a directory;
* `FileTree.discoverBy`, `FileTree.discover`: the templates below a root, in the order of paths;
* `FileTree.discoverAllBy`, `FileTree.discoverAll`: the templates below all namespaces.
-/

namespace TemplateBundler.FileTree

def templateMark : List Char := ['.', 't', 'w', 'i', 'g']

def isTemplate (path : String) : Bool := Text.occurs templateMark path.toList

def child (directory : String) (name : List Char) : String :=
  String.ofList (Path.join directory.toList name)

def unvisited (tree : FileTree) (visited : List Location) : List Location :=
  tree.directories.filter fun location => location ∉ visited

theorem length_unvisited_cons_lt {tree : FileTree} {visited : List Location} {location : Location}
    (h : location ∈ tree.directories) (hv : location ∉ visited) :
    (tree.unvisited (location :: visited)).length < (tree.unvisited visited).length := by
  have he : tree.unvisited (location :: visited) =
      (tree.unvisited visited).filter fun other => other ≠ location := by
    unfold unvisited
    rw [List.filter_filter]
    congr 1
    funext other
    by_cases h' : other = location <;> simp [h']
  rw [he, List.length_filter_lt_length_iff_exists]
  exact ⟨location, by simp [unvisited, h, hv], by simp⟩

theorem mem_directories_of_directory? {tree : FileTree} {path : String} {location : Location}
    (h : tree.directory? path = some location) : location ∈ tree.directories := by
  unfold directory? at h
  simp only [Option.filter_eq_some_iff] at h
  simpa using h.2

/-- The names of the entries of a directory as they are read: a directory may name them in any order,
and in another one when it is read again under another path. -/
abbrev Listing := (path : String) → (directory : Location) → List (List Char)

/-- The templates among the entries `names` of the directory at `path`, and in the directories
among them. `visited` holds the directories on the way down, that one included. -/
def collect (tree : FileTree) (listing : Listing) (visited : List Location) (path : String)
    (names : List (List Char)) : Except Failure (List String) :=
  match names with
  | [] => .ok []
  | name :: rest =>
    let entry := child path name
    let found : Except Failure (List String) :=
      match h : tree.directory? entry with
      | some location =>
        if hv : location ∈ visited then .error (.linkCycle entry)
        else
          have := length_unvisited_cons_lt (mem_directories_of_directory? h) hv
          tree.collect listing (location :: visited) entry (listing entry location)
      | none => .ok (if isTemplate entry then [entry] else [])
    match found with
    | .error failure => .error failure
    | .ok found => (tree.collect listing visited path rest).map (found ++ ·)
termination_by ((tree.unvisited visited).length, names.length)

/-- Paths without those that are the same as the one before. -/
def dropRepeats : List String → List String
  | a :: b :: rest =>
    if Path.same a b then dropRepeats (a :: rest) else a :: dropRepeats (b :: rest)
  | paths => paths

/-- The templates below a root, in the order of paths, where directories are read as `listing` says.
A root that is no directory has none. -/
def discoverBy (tree : FileTree) (listing : Listing) (root : String) :
    Except Failure (List String) :=
  match tree.directory? root with
  | none => .ok []
  | some location =>
    (tree.collect listing [location] root (listing root location)).map fun paths =>
      dropRepeats (paths.mergeSort Path.le)

def discover (tree : FileTree) (root : String) : Except Failure (List String) :=
  tree.discoverBy (fun _ directory => tree.entryNames directory) root

/-- Paths of `new` that are the same as no path before them, after those already `found`. -/
def addNew (found : List String) : List String → List String
  | [] => found
  | path :: rest =>
    if found.any (Path.same path) then addNew found rest else addNew (found ++ [path]) rest

def discoverAllBy (tree : FileTree) (listing : Listing) (namespaces : Namespaces) :
    Except Failure (List String) :=
  namespaces.foldlM (fun found entry => (tree.discoverBy listing entry.2).map (addNew found)) []

def discoverAll (tree : FileTree) (namespaces : Namespaces) : Except Failure (List String) :=
  tree.discoverAllBy (fun _ directory => tree.entryNames directory) namespaces

end TemplateBundler.FileTree
