import TemplateBundler.Json.Basic

/-!
# Failure: why a template or its options cannot be processed

A failure carries what its message tells. Where another reader has refused a text or a value, the
failure carries what was refused. The words of that reader, and those of the system below, are a
parameter of `Failure.message`.
-/

namespace TemplateBundler

/-- Why a path expression has no value. -/
inductive Obstacle where
  | undefinedVariable (name : String)
  | notAContainer (name kind : String)
  | keyWithoutVariable (key : String)
  | emptyPath
deriving DecidableEq, Repr

def Obstacle.text : Obstacle → String
  | .undefinedVariable name => "`" ++ name ++ "` is not defined"
  | .notAContainer name kind => "`" ++ name ++ "` is " ++ kind ++ ", not an object"
  | .keyWithoutVariable key => "`." ++ key ++ "` is not applied to a variable"
  | .emptyPath => "the path folded to an empty string"

/-- What nodes or expression tokens were to be read from. -/
inductive TreeSource where
  | text (text : String)
  | value (value : Json)
deriving Repr

inductive Failure where
  | unreadableFile
  | invalidOptions (format text : String)
  | unsupportedFormat (extension : String)
  | malformedTree (source : TreeSource)
  | missingField (kind field : String)
  /-- The expression is described in its postfix order. -/
  | unresolvablePath (expression : String) (obstacle : Obstacle)
  | unknownTemplate (id : String)
  | linkCycle (path : String)
deriving Repr

namespace Failure

/-- The message. What a reader or the system below says about a failure it has caused is its
`reason`. -/
def message (reason : Failure → String) : Failure → String
  | .unreadableFile => reason .unreadableFile
  | .invalidOptions format text =>
    "failed to parse loader options: " ++ reason (.invalidOptions format text)
  | .unsupportedFormat extension => "unsupported loader options format: `" ++ extension ++ "`"
  | .malformedTree source =>
    "failed to deserialize template AST: " ++ reason (.malformedTree source)
  | .missingField kind field => "`" ++ kind ++ "` token is missing required field `" ++ field ++ "`"
  | .unresolvablePath expression obstacle =>
    "dynamic path `" ++ expression ++ "` could not be resolved: " ++ obstacle.text
  | .unknownTemplate id => "no template registered for id `" ++ id ++ "`"
  | .linkCycle path => "symlink cycle detected at: `" ++ path ++ "`"

def code : Failure → String
  | .unreadableFile => "twigpack::io_error"
  | .invalidOptions _ _ => "twigpack::config_parse"
  | .unsupportedFormat _ => "twigpack::unsupported_format"
  | .malformedTree _ => "twigpack::malformed_ast"
  | .missingField _ _ => "twigpack::malformed_token"
  | .unresolvablePath _ _ => "twigpack::unresolvable_dynamic_path"
  | .unknownTemplate _ => "twigpack::unknown_template"
  | .linkCycle _ => "twigpack::symlink_cycle"

def help? : Failure → Option String
  | .unreadableFile | .missingField _ _ => none
  | .invalidOptions _ _ =>
    some "loader options must contain an optional `twigOptions` table with a `namespaces` map"
  | .unsupportedFormat _ => some "supported formats: json, yaml, yml, toml"
  | .malformedTree _ =>
    some "the AST must be a JSON array of tokens, each with a `type` field"
  | .unresolvablePath _ _ =>
    some "check that the sibling `.yml` data file defines every variable used in the path"
  | .unknownTemplate _ =>
    some "register the template path with `TemplateCompiler::register` before compiling"
  | .linkCycle _ => some "remove the circular symlink from the namespace directory"

end Failure

end TemplateBundler
