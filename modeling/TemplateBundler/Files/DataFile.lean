import TemplateBundler.Files.Tree
import TemplateBundler.Text.Search
import TemplateBundler.Yaml.Value

/-!
# DataFile: the data beside a template

The data stands under the name of the template with another extension. It is never missing: without
a document to read it is an empty object.
-/

namespace TemplateBundler.DataFile

/-- The path of the data: the first `.twig` in the template's path becomes `.yml`. -/
def path? (template : String) : Option String :=
  (Text.replaceFirst? ".twig".toList ".yml".toList template.toList).map String.ofList

def document? (tree : FileTree) (path : String) : Option Json :=
  match (tree.readText? path).bind fun text => Yaml.read? text.toList with
  | none | some .null => none
  | some document => some document

/-- The data of a template: an empty object where there is no data file or no data in it. -/
def load (tree : FileTree) (template : String) : Json :=
  ((path? template).bind (document? tree)).getD (.object [])

end TemplateBundler.DataFile
