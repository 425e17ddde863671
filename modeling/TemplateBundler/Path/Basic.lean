/-!
# Path: slash-separated paths as text

* `Path.segments`: what stands between the slashes;
* `Path.Component`, `Path.components`: the segments that matter when two paths are compared;
* `Path.join`, `Path.parent?`, `Path.extension?`: building and taking apart;
* `Path.compareComponents`, `Path.same`: order and equality of paths.
-/

namespace TemplateBundler.Path

def segments : List Char → List (List Char)
  | [] => [[]]
  | c :: rest =>
    if c = '/' then [] :: segments rest
    else
      match segments rest with
      | [] => [[c]]
      | first :: others => (c :: first) :: others

def joinSegments : List (List Char) → List Char
  | [] => []
  | [segment] => segment
  | segment :: rest => segment ++ '/' :: joinSegments rest

def isAbsolute (path : List Char) : Bool := path.head? == some '/'

/-! ## Components -/

inductive Component where
  | root
  /-- The directory at hand, at the beginning of a relative path. -/
  | here
  | up
  | name (value : List Char)
deriving DecidableEq, Repr

namespace Component

def rank : Component → Nat
  | .root => 0
  | .here => 1
  | .up => 2
  | .name _ => 3

def chars : Component → List Char
  | .root => []
  | .here => ['.']
  | .up => ['.', '.']
  | .name value => value

end Component

def component? (segment : List Char) : Option Component :=
  if segment = [] ∨ segment = ['.'] then none
  else if segment = ['.', '.'] then some .up
  else some (.name segment)

/-- The components of a path: repeated and trailing slashes and single dots do not count, a dot at
the beginning of a relative path does. -/
def components (path : List Char) : List Component :=
  let steps := (segments path).filterMap component?
  if isAbsolute path then .root :: steps
  else if (segments path).head? = some ['.'] then .here :: steps
  else steps

def ofComponents : List Component → List Char
  | .root :: rest => '/' :: joinSegments (rest.map Component.chars)
  | components => joinSegments (components.map Component.chars)

/-! ## Order -/

def compareChars : List Char → List Char → Ordering
  | [], [] => .eq
  | [], _ :: _ => .lt
  | _ :: _, [] => .gt
  | a :: as, b :: bs => (compare a.toNat b.toNat).then (compareChars as bs)

def Component.order (a b : Component) : Ordering :=
  match a, b with
  | .name s, .name t => compareChars s t
  | _, _ => compare a.rank b.rank

def compareComponents : List Component → List Component → Ordering
  | [], [] => .eq
  | [], _ :: _ => .lt
  | _ :: _, [] => .gt
  | a :: as, b :: bs => (a.order b).then (compareComponents as bs)

def le (a b : String) : Bool :=
  compareComponents (components a.toList) (components b.toList) != .gt

def same (a b : String) : Bool := components a.toList == components b.toList

/-! ## Building and taking apart -/

/-- The path seen from the base: an absolute path is itself. -/
def join (base path : List Char) : List Char :=
  if isAbsolute path then path
  else if base = [] ∨ base.getLast? = some '/' then base ++ path
  else base ++ '/' :: path

/-- The path without its last component; `none` if that is the root or missing. -/
def parent? (path : List Char) : Option (List Char) :=
  match (components path).getLast? with
  | none | some .root => none
  | some _ => some (ofComponents (components path).dropLast)

def fileName? (path : List Char) : Option (List Char) :=
  match (components path).getLast? with
  | some (.name value) => some value
  | _ => none

/-- What follows the last dot of the file name, unless the name begins with that dot. -/
def extension? (path : List Char) : Option (List Char) := do
  let name ← fileName? path
  let behind := (name.reverse.takeWhile (· ≠ '.')).reverse
  let before := name.length - behind.length
  if before ≤ 1 then none else some behind

end TemplateBundler.Path
