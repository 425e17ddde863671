import TemplateBundler.Data.Access

/-!
# Scope: the data that a construct sees

A scope is never changed: a loop derives a new one for its body, so that siblings and parents keep
the scope they started with.
-/

namespace TemplateBundler

/-- The data at hand and the names that enclosing loops have bound. -/
structure Scope where
  value : Json := .null
  bindings : Entries Json := []

namespace Scope

def binding? (scope : Scope) (name : String) : Option Json := Entries.valueOf? name scope.bindings

/-- What `name` stands for: a bound value before a property of the data. -/
def lookup? (scope : Scope) (name : String) : Option Json :=
  (scope.binding? name).or (scope.value.property? name)

def firstElement? (scope : Scope) : Option Json := scope.value.property? "0"

def descend (scope : Scope) (value : Json) : Scope := { scope with value := value }

def bind (scope : Scope) (name : String) (value : Json) : Scope :=
  { scope with bindings := Entries.put name value scope.bindings }

/-- The scope inside a loop over `value`: its variable, if it has one, is bound to the first
element, if there is one. -/
def enter (scope : Scope) (value : Json) (name? : Option String) : Scope :=
  let inner := scope.descend value
  match name?, inner.firstElement? with
  | some name, some first => inner.bind name first
  | _, _ => inner

end Scope

end TemplateBundler
