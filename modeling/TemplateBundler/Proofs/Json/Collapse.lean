import TemplateBundler.Json.Basic
import TemplateBundler.Proofs.Entries

/-!
# Collapse: values in which each key stands once

Collapsing works on the parts of a value one by one, and once is enough: a value that repeats no key
(`KeysOnce`) stays as it is, and collapsing leaves such a value.
-/

namespace TemplateBundler.Json

/-- A property of values holds of all of them if it passes from the parts of a value to it. -/
@[elab_as_elim]
theorem treeInduction {motive : Json → Prop} (null : motive .null)
    (bool : ∀ value, motive (.bool value)) (number : ∀ value, motive (.number value))
    (string : ∀ value, motive (.string value))
    (array : ∀ items, (∀ item ∈ items, motive item) → motive (.array items))
    (object : ∀ fields, (∀ field ∈ fields, motive field.2) → motive (.object fields)) :
    ∀ value, motive value
  | .null => null
  | .bool value => bool value
  | .number value => number value
  | .string value => string value
  | .array items =>
    array items fun item _ => treeInduction null bool number string array object item
  | .object fields =>
    object fields fun field _ => treeInduction null bool number string array object field.2
termination_by value => sizeOf value
decreasing_by
  · have := List.sizeOf_lt_of_mem ‹item ∈ items›
    simp only [Json.array.sizeOf_spec]
    omega
  · have := List.sizeOf_lt_of_mem ‹field ∈ fields›
    have : sizeOf field = 1 + sizeOf field.1 + sizeOf field.2 := rfl
    simp only [Json.object.sizeOf_spec]
    omega

/-! ## Parts -/

theorem collapseItems_eq_map (items : List Json) : collapseItems items = items.map collapse := by
  induction items with
  | nil => rfl
  | cons item rest ih => rw [collapseItems, ih, List.map_cons]

theorem collapseFields_eq_map (fields : List (String × Json)) :
    collapseFields fields = fields.map fun field => (field.1, field.2.collapse) := by
  induction fields with
  | nil => rfl
  | cons field rest ih =>
    obtain ⟨key, value⟩ := field
    rw [collapseFields, ih, List.map_cons]

theorem collapseFields_ofPairs (pairs : List (String × Json)) :
    collapseFields (Entries.ofPairs pairs) = Entries.ofPairs (collapseFields pairs) := by
  rw [collapseFields_eq_map, collapseFields_eq_map, Entries.ofPairs_map]

theorem collapseFields_without (declared : List String) (pairs : List (String × Json)) :
    collapseFields (Entries.without declared pairs) =
      Entries.without declared (collapseFields pairs) := by
  rw [collapseFields_eq_map, collapseFields_eq_map, Entries.without, Entries.without,
    List.filter_map]
  rfl

@[simp]
theorem isNull_collapse (value : Json) : value.collapse.isNull = value.isNull := by
  cases value <;> rfl

/-! ## Collapsing again -/

@[simp]
theorem collapse_collapse (value : Json) : value.collapse.collapse = value.collapse := by
  induction value using treeInduction with
  | null | bool value | number value | string value => rfl
  | array items ih =>
    simp only [collapse, collapseItems_eq_map, List.map_map]
    congr 1
    exact List.map_congr_left ih
  | object fields ih =>
    have hfields : collapseFields (collapseFields fields) = collapseFields fields := by
      simp only [collapseFields_eq_map, List.map_map]
      refine List.map_congr_left fun field hfield => ?_
      exact congrArg (Prod.mk field.1) (ih field hfield)
    rw [collapse, collapse, collapseFields_ofPairs, hfields, Entries.ofPairs_ofPairs]

theorem collapseFields_collapseFields (fields : List (String × Json)) :
    collapseFields (collapseFields fields) = collapseFields fields := by
  simp [collapseFields_eq_map, Function.comp_def]

/-- Each key of each object stands once. -/
inductive KeysOnce : Json → Prop
  | null : KeysOnce .null
  | bool (value : Bool) : KeysOnce (.bool value)
  | number (value : Number) : KeysOnce (.number value)
  | string (value : String) : KeysOnce (.string value)
  | array {items : List Json} (h : ∀ item ∈ items, KeysOnce item) : KeysOnce (.array items)
  | object {fields : List (String × Json)} (hkeys : (Entries.keys fields).Nodup)
      (h : ∀ field ∈ fields, KeysOnce field.2) : KeysOnce (.object fields)

theorem collapse_of_keysOnce {value : Json} (h : value.KeysOnce) : value.collapse = value := by
  induction h with
  | null | bool value | number value | string value => rfl
  | @array items _ ih =>
    have hitems : items.map collapse = items := (List.map_congr_left ih).trans (List.map_id' items)
    rw [collapse, collapseItems_eq_map, hitems]
  | @object fields hkeys _ ih =>
    have hfields : collapseFields fields = fields := by
      rw [collapseFields_eq_map]
      refine (List.map_congr_left fun field hfield => ?_).trans (List.map_id' fields)
      rw [ih field hfield]
    rw [collapse, hfields, Entries.ofPairs_of_nodup hkeys]

end TemplateBundler.Json
