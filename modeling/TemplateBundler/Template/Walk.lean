import TemplateBundler.Data.Folding
import TemplateBundler.Data.Pointing
import TemplateBundler.Namespaces
import TemplateBundler.Path.Resolve
import TemplateBundler.Template.Token

/-!
# Walk: the dependencies of a template

The tree is visited in the order of the document. Each path found is recorded, and the identifier
of the file it names takes its place in the tree. A loop gives its body a scope of its own, on the
first element of what it runs over.

* `Site`: what stays the same during a walk;
* `Site.recordStack`: the literals of a path stack;
* `Site.recordInclude`: the stack of an include, reduced to one literal if it is dynamic;
* `Token.walk`, `Token.walkAll`: a node and a list of nodes.
-/

namespace TemplateBundler

/-- What stays the same while a template is walked: its data, the aliases, the rule that turns an
absolute path into an identifier, and the directories that relative paths are seen from. -/
structure Site where
  document : Json
  namespaces : Namespaces
  identify : String → String
  workingDirectory : String
  directory : String

namespace Site

def idOf (site : Site) (dependency : String) : String :=
  site.identify (Path.resolve site.workingDirectory site.directory dependency)

/-- A token of a path stack: a literal is recorded, aliases replaced, and gets the identifier as its
value; any other token stays as it is. -/
def recordToken (site : Site) (token : ExprToken) : Except Failure (ExprToken × List String) :=
  match token.classify with
  | .error failure => .error failure
  | .ok (.literal path) =>
    let dependency := site.namespaces.resolve path
    .ok (token.setValue (.string (site.idOf dependency)), [dependency])
  | .ok _ => .ok (token, [])

def recordStack (site : Site) : List ExprToken → Except Failure (List ExprToken × List String)
  | [] => .ok ([], [])
  | token :: rest =>
    match site.recordToken token with
    | .error failure => .error failure
    | .ok (token, found) =>
      match site.recordStack rest with
      | .error failure => .error failure
      | .ok (rest, more) => .ok (token :: rest, found ++ more)

/-- The stack of an include: one that is not made of literals alone is first reduced to the path
that it stands for. -/
def recordInclude (site : Site) (scope : Scope) (stack : List ExprToken) :
    Except Failure (List ExprToken × List String) :=
  if stack.all ExprToken.isLiteral then site.recordStack stack
  else
    match foldPath stack scope with
    | .error failure => .error failure
    | .ok path => site.recordStack [.ofText path]

def loopScope (site : Site) (scope : Scope) (logic : Logic) : Except Failure Scope :=
  match logic.loopSource with
  | .error failure => .error failure
  | .ok source =>
    match pointAt source site.document scope with
    | .error failure => .error failure
    | .ok value => .ok (scope.enter value logic.loopVariable?)

def recordOptional (site : Site) (stack : Option (List ExprToken)) :
    Except Failure (Option (List ExprToken) × List String) :=
  match stack with
  | none => .ok (none, [])
  | some stack => (site.recordStack stack).map fun (stack, found) => (some stack, found)

end Site

mutual

def Token.walk (site : Site) (scope : Scope) : Token → Except Failure (Token × List String)
  | ⟨.logic, some logic, fields⟩ =>
    (logic.walk site scope).map fun (logic, found) => (⟨.logic, some logic, fields⟩, found)
  | token => .ok (token, [])

/-- A construct with its dependencies. The body of an embed comes before its own path. -/
def Logic.walk (site : Site) (scope : Scope) : Logic → Except Failure (Logic × List String)
  | ⟨kind, body, stack, expression, fields⟩ =>
    match kind with
    | .forLoop =>
      match site.loopScope scope ⟨kind, body, stack, expression, fields⟩ with
      | .error failure => .error failure
      | .ok inner =>
        (Token.walkBody site inner body).map fun (body, found) =>
          (⟨kind, body, stack, expression, fields⟩, found)
    | .block | .ifTrue | .elseIf | .otherwise | .spaceless | .setCapture | .macroBody =>
      (Token.walkBody site scope body).map fun (body, found) =>
        (⟨kind, body, stack, expression, fields⟩, found)
    | .extend | .includeFile =>
      match stack with
      | none => .error (.missingField kind.name "stack")
      | some tokens =>
        (site.recordInclude scope tokens).map fun (tokens, found) =>
          (⟨kind, body, some tokens, expression, fields⟩, found)
    | .embed =>
      match Token.walkBody site scope body with
      | .error failure => .error failure
      | .ok (body, inside) =>
        (site.recordOptional stack).map fun (stack, found) =>
          (⟨kind, body, stack, expression, fields⟩, inside ++ found)
    | .importAll | .importNames =>
      if Logic.refersToSelf ⟨kind, body, stack, expression, fields⟩ then
        .ok (⟨kind, body, stack, expression, fields⟩, [])
      else
        (site.recordOptional stack).map fun (stack, found) =>
          (⟨kind, body, stack, expression, fields⟩, found)
    | .other _ => .ok (⟨kind, body, stack, expression, fields⟩, [])

def Token.walkBody (site : Site) (scope : Scope) :
    Option (List Token) → Except Failure (Option (List Token) × List String)
  | none => .ok (none, [])
  | some tokens => (Token.walkAll site scope tokens).map fun (tokens, found) => (some tokens, found)

def Token.walkAll (site : Site) (scope : Scope) :
    List Token → Except Failure (List Token × List String)
  | [] => .ok ([], [])
  | token :: rest =>
    match token.walk site scope with
    | .error failure => .error failure
    | .ok (token, found) =>
      match Token.walkAll site scope rest with
      | .error failure => .error failure
      | .ok (rest, more) => .ok (token :: rest, found ++ more)

end

/-- The tree with identifiers in place of paths, and the paths, beginning with the whole document
as the data at hand. -/
def Site.walk (site : Site) (tokens : List Token) : Except Failure (List Token × List String) :=
  Token.walkAll site { value := site.document } tokens

end TemplateBundler
