import TemplateBundler.Namespaces
import TemplateBundler.Template.Token

/-!
# Options: what the host hands to the compiler

The namespaces are read by the compiler. All other fields go to the renderer untouched, below those
that the compiler sets for each template.
-/

namespace TemplateBundler

/-- The options for the renderer. Only the namespaces are read by the compiler itself. -/
structure LoaderOptions where
  namespaces : Namespaces := []
  passthrough : Entries Json := []

namespace LoaderOptions

def isDefault (options : LoaderOptions) : Bool :=
  options.namespaces.isEmpty && options.passthrough.isEmpty

def namespacesJson (namespaces : Namespaces) : Json :=
  .object (namespaces.map fun entry => (entry.1, .string entry.2))

/-- The fields for the renderer: the namespaces first, unless there are none. -/
def rendererFields (options : LoaderOptions) : Entries Json :=
  if options.namespaces.isEmpty then options.passthrough
  else ("namespaces", namespacesJson options.namespaces) :: options.passthrough

def toJson (options : LoaderOptions) : Json :=
  .object [("twigOptions", .object options.rendererFields)]

/-- The fields that a compiled template hands to the renderer: its identifier, its tokens and two
flags override whatever the options say. -/
def instantiation (options : LoaderOptions) (id : String) (tokens : List Token) : Entries Json :=
  let fields := Entries.put "id" (.string id) options.rendererFields
  let fields := Entries.put "data" (.array (Token.listToJson tokens)) fields
  let fields := Entries.put "allowInlineIncludes" (.bool true) fields
  Entries.put "rethrow" (.bool true) fields

/-! ## Fields of the renderer options -/

def namespaceOfPair? (pair : String × Json) : Option (String × String) :=
  pair.2.asString?.map fun target => (pair.1, target)

def namespacesOfPairs? (pairs : List (String × Json)) : Option Namespaces :=
  (pairs.mapM namespaceOfPair?).map Entries.ofPairs

def namespacesField? (pairs : List (String × Json)) : Option Namespaces :=
  match Field.given "namespaces" pairs with
  | [] => some []
  | [.object entries] => namespacesOfPairs? entries
  | _ => none

def ofRendererPairs? (pairs : List (String × Json)) : Option LoaderOptions :=
  (namespacesField? pairs).map fun namespaces =>
    { namespaces := namespaces, passthrough := Field.others ["namespaces"] pairs }

end LoaderOptions

end TemplateBundler
