import TemplateBundler.Bundle.Module
import TemplateBundler.ContentId
import TemplateBundler.Files.DataFile
import TemplateBundler.Options.Basic
import TemplateBundler.Template.Walk

/-!
# Workspace: compiling registered templates

* `Workspace`: the options, the registered templates, the rule for identifiers, and the files;
* `Workspace.register`: a template under an identifier;
* `Workspace.analyze`: the processed tree of a template and its dependencies;
* `Workspace.compile`: the module of a template.
-/

namespace TemplateBundler

structure Workspace where
  options : LoaderOptions := {}
  /-- The path of each template by its identifier. -/
  resources : Entries String := []
  /-- The identifier of an absolute path. -/
  identify : String → String := ContentId.sha512
  workingDirectory : String := "/"
  files : FileTree := {}

/-- A processed tree with the dependencies found in it, in order and with repetitions. -/
structure Analysis where
  tokens : List Token
  dependencies : List String

namespace Workspace

def register (workspace : Workspace) (id path : String) : Workspace :=
  { workspace with resources := Entries.put id path workspace.resources }

def directoryOf (template : String) : String :=
  String.ofList ((Path.parent? template.toList).getD [])

def siteOf (workspace : Workspace) (template : String) : Site :=
  { document := DataFile.load workspace.files template
    namespaces := workspace.options.namespaces
    identify := workspace.identify
    workingDirectory := workspace.workingDirectory
    directory := directoryOf template }

def analyze (workspace : Workspace) (id text : String) : Except Failure Analysis :=
  match Entries.valueOf? id workspace.resources with
  | none => .error (.unknownTemplate id)
  | some template =>
    match Token.parseTree text with
    | .error failure => .error failure
    | .ok tokens =>
      ((workspace.siteOf template).walk tokens).map fun (tokens, dependencies) =>
        ⟨tokens, dependencies⟩

def compile (workspace : Workspace) (id text entry : String) : Except Failure String :=
  (workspace.analyze id text).map fun analysis =>
    Bundle.moduleText entry (workspace.options.instantiation id analysis.tokens)
      analysis.dependencies

end Workspace

end TemplateBundler
