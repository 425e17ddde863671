import TemplateBundler.Json.Draft

/-!
# Reader: JSON values from text

A text is first read as it is written, with its repeated keys; then each key is left once.
-/

namespace TemplateBundler.Json

def maxDepth : Nat := 127

/-- The value of a text with its repeated keys, containers nesting at most `depth` deep. -/
def readPairs? (depth : Nat) (s : List Char) : Option Json :=
  (Draft.read? s).bind (Draft.toJson? depth)

def read? (depth : Nat) (s : List Char) : Option Json := (readPairs? depth s).map collapse

end TemplateBundler.Json
