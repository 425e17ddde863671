import TemplateBundler.Data.Scope
import TemplateBundler.Json.Printer
import TemplateBundler.Template.Expr
import TemplateBundler.Text.Quoted

/-!
# Folding: the text that a concatenation stands for

Literals and scalar values fill a left and then a right operand; each concatenation appends the
operands to the path. A variable names the value that the keys after it read from.

* `Operands`: the state of the evaluation;
* `Operands.step`: what one term does to it;
* `describeStack`: an expression stack in its postfix order;
* `foldPath`: the path that an expression stack stands for.
-/

namespace TemplateBundler

/-- The operands gathered since the last concatenation, the source that keys read from with the last
variable named, and the path so far. -/
structure Operands where
  left : Option Json := none
  right : Option Json := none
  source : Option Json := none
  sourceName : Option String := none
  path : String := ""

namespace Operands

def operandText? (operand : Option Json) : Option String :=
  match operand with
  | some value => if value.isTruthy then some value.scalarText else none
  | none => none

/-- A value becomes the left operand, or the right one if the left operand is truthy. -/
def fill (state : Operands) (value : Json) : Operands :=
  if state.left.any Json.isTruthy then { state with right := some value }
  else { state with left := some value }

/-- The operands are appended to the path, the right one only after a left one, and forgotten
together with the source. -/
def flush (state : Operands) : Operands :=
  let appended :=
    match operandText? state.left with
    | some left => state.path ++ left ++ (operandText? state.right).getD ""
    | none => state.path
  { state with left := none, right := none, source := none, path := appended }

/-- A key is read from the source: a scalar fills an operand, any other value is read
from in its turn, and a missing key changes nothing. -/
def readKey (state : Operands) (key : String) : Except Obstacle Operands :=
  match state.source with
  | some container@(.object _) | some container@(.array _) =>
    match container.property? key with
    | some value =>
      if value.isScalar then .ok (state.fill value) else .ok { state with source := some value }
    | none => .ok state
  | some other => .error (.notAContainer (state.sourceName.getD "") other.kindPhrase)
  | none =>
    match state.sourceName with
    | some name => .error (.undefinedVariable name)
    | none => .error (.keyWithoutVariable key)

def step (scope : Scope) (state : Operands) : PathTerm → Except Obstacle Operands
  | .literal text => .ok (state.fill (.string text))
  | .variable name =>
    .ok { state with source := scope.lookup? name, sourceName := some name }
  | .key name => state.readKey name
  | .concat => .ok state.flush
  | .slice _ _ | .unsupported _ => .ok state

end Operands

/-! ## Descriptions -/

def ExprToken.describe (token : ExprToken) : String :=
  match token.classify with
  | .ok (.literal text) => Text.Quoted.encode text
  | .ok (.variable name) => name
  | .ok (.key name) => "." ++ name
  | .ok (.slice _ _) => "[:]"
  | .ok .concat => "~"
  | .ok (.unsupported kind) => kind.name
  | .error _ => token.kind.name

def describeStack (expressions : List ExprToken) : String :=
  String.intercalate " " (expressions.map ExprToken.describe)

/-! ## Paths -/

def unresolvable (expressions : List ExprToken) (obstacle : Obstacle) : Failure :=
  .unresolvablePath (describeStack expressions) obstacle

def Operands.run (scope : Scope) (fail : Obstacle → Failure) (state : Operands)
    (tokens : List ExprToken) : Except Failure Operands :=
  tokens.foldlM
    (fun state token => token.classify.bind fun term => (state.step scope term).mapError fail) state

def foldPath (expressions : List ExprToken) (scope : Scope) : Except Failure String :=
  match Operands.run scope (unresolvable expressions) {} expressions with
  | .error failure => .error failure
  | .ok state =>
    let path := state.flush.path
    if path = "" then .error (unresolvable expressions .emptyPath) else .ok path

end TemplateBundler
