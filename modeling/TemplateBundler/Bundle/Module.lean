import TemplateBundler.Dependencies
import TemplateBundler.Json.Printer

/-!
# Module: the text that a template becomes

The module requires each dependency, makes a renderer with the options, and exports a function that
renders.
-/

namespace TemplateBundler.Bundle

def requireLine (dependency : String) : List Char :=
  "require(".toList ++ Json.quoteChars dependency.toList ++ ");\n".toList

/-- The line that loads the renderer. The entry stands as it is given. -/
def entryLine (entry : String) : List Char :=
  "var twig = require(\"".toList ++ entry.toList ++ "\").twig,".toList

def templateLine (options : Entries Json) : List Char :=
  "    template = twig(".toList ++ (Json.object options).chars ++ ");\n".toList

def exportLine : List Char :=
  "module.exports = function(context) \x7b return template.render(context); \x7d".toList

def joinLines : List (List Char) → List Char
  | [] => []
  | [line] => line
  | line :: rest => line ++ '\n' :: joinLines rest

/-- The module of a template: each dependency is required once, in the order of discovery. -/
def moduleText (entry : String) (options : Entries Json) (dependencies : List String) : String :=
  String.ofList (joinLines
    ((Dependencies.unique dependencies).map requireLine ++
      [entryLine entry, templateLine options, exportLine]))

end TemplateBundler.Bundle
