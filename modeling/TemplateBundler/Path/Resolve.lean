import TemplateBundler.Path.Basic

/-!
# Resolve: absolute paths without dots

A path is seen from a base directory, and this from the working directory. What is left when all
dots have been followed is the one absolute form of the path.
-/

namespace TemplateBundler.Path

/-- One more step on the way, the innermost directory first. Two dots leave the innermost directory,
and do nothing at the root. -/
def enter (way : List Component) : Component → List Component
  | .here => way
  | .up =>
    match way with
    | [] => []
    | .root :: outer => .root :: outer
    | _ :: outer => outer
  | step => step :: way

def normalize (path : List Char) : List Char :=
  ofComponents ((components path).foldl enter []).reverse

/-- The path seen from `base`, which is itself seen from the working directory, as an absolute path
without dots, doubled slashes or a trailing slash. Nothing seen from nothing is the empty path. -/
def resolve (workingDirectory base path : String) : String :=
  let joined := join base.toList path.toList
  if joined = [] then "" else String.ofList (normalize (join workingDirectory.toList joined))

end TemplateBundler.Path
