import TemplateBundler.Json.Basic
import TemplateBundler.Number.Integer

/-!
# Access: reading parts of a value

A key names a field of an object, or spells an index of an array. A slice is taken of an array or of
the characters of a string, and any bound lies somewhere: it is brought between the two ends.
-/

namespace TemplateBundler

/-- The value under a key of an object, or at the index of an array that the key spells. -/
def Json.property? (value : Json) (key : String) : Option Json :=
  match value with
  | .object fields => Entries.valueOf? key fields
  | .array items => (Integer.unsignedOf? key.toList).bind fun index => items[index]?
  | _ => none

namespace Slice

/-- The position that a bound names: a negative bound counts from the end, and every bound is
brought between the two ends. -/
def position (length : Nat) (bound : Int) : Nat :=
  let counted := if bound < 0 then (length : Int) + bound else bound
  (max 0 (min counted length)).toNat

/-- Where a slice begins and ends: the whole length by default, and never backwards. -/
def bounds (length : Nat) (start stop : Option Int) : Nat × Nat :=
  let first := position length (start.getD 0)
  let last := position length (stop.getD length)
  (first, max last first)

def cut {α : Type} (items : List α) (start stop : Option Int) : List α :=
  let (first, last) := bounds items.length start stop
  (items.take last).drop first

end Slice

def Json.slice? (value : Json) (start stop : Option Int) : Option Json :=
  match value with
  | .array items => some (.array (Slice.cut items start stop))
  | .string text => some (.string (String.ofList (Slice.cut text.toList start stop)))
  | _ => none

end TemplateBundler
