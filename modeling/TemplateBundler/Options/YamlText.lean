import TemplateBundler.Options.Basic
import TemplateBundler.Yaml.Value

/-!
# YamlText: loader options in YAML

Where a mapping is expected, nothing at all stands for an empty one. Targets of namespaces may be
any scalar: its text is the target. Tags count only in the values for the renderer.
-/

namespace TemplateBundler.LoaderOptions

open Yaml (Document Node Reading)

/-- The entries of a mapping by the texts of their keys. Nothing stands for an empty mapping. -/
def entriesOf (document : Document) (node : Node) : Reading (List (String × Node)) := do
  match ← document.follow node with
  | .mapping _ pairs =>
    pairs.mapM fun pair => do
      let key ← document.key .anyScalar pair.1
      return (key, pair.2)
  | .scalar _ text plain => if plain && text = "" then return [] else failure
  | _ => failure

def valuesOf (key : String) (entries : List (String × Node)) : List Node :=
  (entries.filter fun entry => entry.1 = key).map Prod.snd

def namespaceOfEntry (document : Document) (entry : String × Node) : Reading (String × String) := do
  let target ← document.key .anyScalar entry.2
  return (entry.1, target)

def namespacesOfNode (document : Document) (node : Node) : Reading Namespaces := do
  let entries ← entriesOf document node
  let pairs ← entries.mapM (namespaceOfEntry document)
  return Entries.ofPairs pairs

/-- A field for the renderer, two mappings deep inside the text. -/
def fieldOfEntry (document : Document) (entry : String × Node) : Reading (String × Json) := do
  let value ← document.pairsValue .stringsOnly (Document.maxDepth - 2) entry.2
  return (entry.1, value.collapse)

def ofRendererNode (document : Document) (node : Node) : Reading LoaderOptions := do
  let entries ← entriesOf document node
  let namespaces ←
    match valuesOf "namespaces" entries with
    | [] => pure []
    | [value] => namespacesOfNode document value
    | _ => failure
  let fields ← (Entries.without ["namespaces"] entries).mapM (fieldOfEntry document)
  return { namespaces := namespaces, passthrough := Entries.ofPairs fields }

/-- Options from the root of a document; fields of any other name than `twigOptions` are not looked
at. -/
def ofRoot (document : Document) (root : Node) : Reading LoaderOptions := do
  let entries ← entriesOf document root
  match valuesOf "twigOptions" entries with
  | [] => return {}
  | [value] => ofRendererNode document value
  | _ => failure

def ofDocument? (document : Document) : Option LoaderOptions :=
  match document.root with
  | none => some {}
  | some root => document.run? (ofRoot document root)

def parseYaml (text : String) : Except Failure LoaderOptions :=
  match (Document.read? text.toList).bind ofDocument? with
  | some options => .ok options
  | none => .error (.invalidOptions "yaml" text)

end TemplateBundler.LoaderOptions
