/-!
# Dependencies: paths in the order of their discovery

A template may name a file more than once. Its module requires it once, where it was first found.
-/

namespace TemplateBundler.Dependencies

/-- The paths that are not in `seen`, each where it stands first. -/
def uniqueAfter (seen : List String) : List String → List String
  | [] => []
  | path :: rest =>
    if path ∈ seen then uniqueAfter seen rest else path :: uniqueAfter (path :: seen) rest

def unique (paths : List String) : List String := uniqueAfter [] paths

end TemplateBundler.Dependencies
