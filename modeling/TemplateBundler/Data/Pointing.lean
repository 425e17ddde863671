import TemplateBundler.Data.Scope
import TemplateBundler.Template.Expr

/-!
# Pointing: the data that a loop runs over

The stack is worked through from the left, with one value at hand: variables and keys go on to other
values, slices to a part of the one at hand.
-/

namespace TemplateBundler

/-- What a term does to the value at hand: a variable goes to the document's entry of that name, or
else to an enclosing binding; a key and a slice go into the value. A term that does not apply
changes nothing. -/
def Pointing.step (document : Json) (scope : Scope) (current : Json) : PathTerm → Json
  | .variable name => ((document.property? name).or (scope.binding? name)).getD current
  | .key name => (current.property? name).getD current
  | .slice start stop => (current.slice? start stop).getD current
  | .literal _ | .concat | .unsupported _ => current

def pointAt (expressions : List ExprToken) (document : Json) (scope : Scope) :
    Except Failure Json :=
  expressions.foldlM
    (fun current token => token.classify.map (Pointing.step document scope current)) document

end TemplateBundler
