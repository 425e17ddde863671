import TemplateBundler.Files.Tree
import TemplateBundler.Options.JsonText
import TemplateBundler.Options.TomlText
import TemplateBundler.Options.YamlText

/-!
# File: loader options from a file

The extension of the file, in small letters, names the format of its text.
-/

namespace TemplateBundler.LoaderOptions

def formatOf (path : String) : String :=
  String.ofList (((Path.extension? path.toList).getD []).map Char.toLower)

def parse (format text : String) : Except Failure LoaderOptions :=
  if format = "json" then parseJson text
  else if format = "yaml" ∨ format = "yml" then parseYaml text
  else if format = "toml" then parseToml text
  else .error (.unsupportedFormat format)

/-- Options from a file. The file has to be readable before its format matters. -/
def load (tree : FileTree) (path : String) : Except Failure LoaderOptions :=
  match tree.readText? path with
  | some text => parse (formatOf path) text
  | none => .error .unreadableFile

end TemplateBundler.LoaderOptions
