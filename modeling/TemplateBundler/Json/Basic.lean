import TemplateBundler.Entries
import TemplateBundler.Number.Binary64

/-!
# Json: values with ordered fields

Numbers are exact integers of 64 bits (signed or unsigned) or finite doubles. The fields of an
object are listed in order; `Json.collapse` brings a listing with repeated keys into the form in
which each key stands once.
-/

namespace TemplateBundler

/-- A number: an integer is exact, any other value is a finite double. -/
inductive Number where
  | int (value : Int)
  | float (value : Binary64)
deriving DecidableEq, Repr

def Number.isZero : Number → Bool
  | .int value => value == 0
  | .float value => value.isZero

inductive Json where
  | null
  | bool (value : Bool)
  | number (value : Number)
  | string (value : String)
  | array (items : List Json)
  | object (fields : List (String × Json))
deriving Repr, Inhabited

namespace Json

def asString? : Json → Option String
  | .string value => some value
  | _ => none

def asArray? : Json → Option (List Json)
  | .array items => some items
  | _ => none

def isNull : Json → Bool
  | .null => true
  | _ => false

def isScalar : Json → Bool
  | .string _ | .number _ | .bool _ => true
  | _ => false

/-- Null, `false`, zero and the empty string are not truthy; everything else is. -/
def isTruthy : Json → Bool
  | .null => false
  | .bool value => value
  | .number value => !value.isZero
  | .string value => value ≠ ""
  | .array _ | .object _ => true

def kindPhrase : Json → String
  | .null => "null"
  | .bool _ => "a boolean"
  | .number _ => "a number"
  | .string _ => "a string"
  | .array _ => "an array"
  | .object _ => "an object"

/-! ## Repeated keys -/

mutual

/-- The value with each key of each object standing once, at its first place and with its last
value. -/
def collapse : Json → Json
  | .null => .null
  | .bool value => .bool value
  | .number value => .number value
  | .string value => .string value
  | .array items => .array (collapseItems items)
  | .object fields => .object (Entries.ofPairs (collapseFields fields))

def collapseItems : List Json → List Json
  | [] => []
  | item :: rest => item.collapse :: collapseItems rest

def collapseFields : List (String × Json) → List (String × Json)
  | [] => []
  | (key, value) :: rest => (key, value.collapse) :: collapseFields rest

end

end Json

end TemplateBundler
