import TemplateBundler.Proofs.Data.Concatenation
import TemplateBundler.Proofs.Data.DottedRead

/-!
# PrefixedField: a text with a field behind it

The path of a text and a field, such as `"item-" ~ page.index`, is the text with the field's value
behind it. A field that is zero or `false` fills the right operand like any other scalar, but it is
not appended, and the path is the text alone.
-/

namespace TemplateBundler

theorem Operands.operandText?_of_isScalar {value : Json} (hscalar : value.isScalar = true) :
    (operandText? (some value)).getD "" = if value.joins then value.scalarText else "" := by
  cases hjoins : value.joins with
  | true => rw [operandText?_of_joins hjoins, if_pos rfl]
  | false =>
    have hfalse : value.isTruthy = false := by
      cases value with
      | string text => cases hjoins
      | number number | bool flag => exact hjoins
      | null | array items | object fields => cases hscalar
    simp [operandText?, hfalse]

section PrefixedField

variable {scope : Scope} {stack : List ExprToken} {text name key : String} {value : Json}

def prefixedField (text name key : String) : List (Option Operand) :=
  [some (.literal text), some (.read name key [])]

/-- Both operands stand in one run, so that the text is the left one and the field the right one. -/
theorem rowText_prefixedField (htext : text ≠ "")
    (hvalue : (Operand.read name key []).value? scope = some value)
    (hscalar : value.isScalar = true) {items : List (Option Operand)}
    (hitems : items = prefixedField text name key ∨ items = prefixedField text name key ++ [none]) :
    rowText scope items = text ++ if value.joins then value.scalarText else "" := by
  have hvalues : [Operand.literal text, .read name key []].filterMap (Operand.value? scope) =
      [.string text, value] := by
    have hliteral : (Operand.literal text).value? scope = some (.string text) := rfl
    rw [List.filterMap_cons_some hliteral, List.filterMap_cons_some hvalue, List.filterMap_nil]
  have htruthy : (Json.string text).isTruthy = true := by simpa [Json.isTruthy] using htext
  have hslot : Operands.slotText [.string text, value] =
      text ++ if value.joins then value.scalarText else "" := by
    rw [Operands.slotText_cons_of_truthy htruthy, List.getLast?_singleton,
      Operands.operandText?_of_isScalar hscalar]
    rfl
  rcases hitems with rfl | rfl
  · simp [rowText, prefixedField, runsOf, hvalues, hslot]
  · have hempty : Operands.slotText [] = "" := rfl
    simp [rowText, prefixedField, runsOf, hvalues, hslot, hempty]

/-- **A text with a field behind it** has the path that both make, exactly if the field is a string,
a number other than zero, or `true`. The path of any other scalar field is the text alone. The
concatenation at the end may be missing. -/
theorem foldPath_prefixedField
    (hstack : Spells stack [.literal text, .variable name, .key key] ∨
      Spells stack [.literal text, .variable name, .key key, .concat])
    (htext : text ≠ "") (hvalue : (Operand.read name key []).value? scope = some value)
    (hscalar : value.isScalar = true) :
    foldPath stack scope = .ok (text ++ if value.joins then value.scalarText else "") ∧
      (foldPath stack scope = .ok (text ++ value.scalarText) ↔ value.joins = true) := by
  obtain ⟨items, hitems, hspells⟩ : ∃ items, (items = prefixedField text name key ∨
      items = prefixedField text name key ++ [none]) ∧ Spells stack (itemTerms items) := by
    rcases hstack with h | h
    · exact ⟨_, .inl rfl, h⟩
    · exact ⟨_, .inr rfl, h⟩
  have hoperands : ∀ operand, some operand ∈ items →
      ∃ value, operand.value? scope = some value ∧ value.isScalar = true := by
    intro operand hoperand
    have hmem : operand = .literal text ∨ operand = .read name key [] := by
      rcases hitems with rfl | rfl <;> simpa [prefixedField] using hoperand
    rcases hmem with rfl | rfl
    · exact ⟨.string text, rfl, rfl⟩
    · exact ⟨value, hvalue, hscalar⟩
  have hpath : foldPath stack scope =
      .ok (text ++ if value.joins then value.scalarText else "") := by
    rw [foldPath_items hspells hoperands, rowText_prefixedField htext hvalue hscalar hitems,
      if_neg (by simp [htext])]
  refine ⟨hpath, ?_⟩
  rw [hpath, Except.ok.injEq, String.append_right_inj]
  constructor
  · intro h
    cases hjoins : value.joins with
    | true => rfl
    | false =>
      rw [hjoins, if_neg Bool.false_ne_true] at h
      rw [(Json.scalarText_eq_empty_iff hscalar).1 h.symm] at hjoins
      cases hjoins
  · intro hjoins
    rw [if_pos hjoins]

end PrefixedField

/-! ### The index of a page -/

/-- `"item-" ~ page.index` -/
def indexStack : List ExprToken := [.ofText "item-", variableToken "page", keyToken "index"]

def indexScope (index : Json) : Scope := { value := .object [("page", .object [("index", index)])] }

theorem spells_indexStack :
    Spells indexStack [.literal "item-", .variable "page", .key "index"] :=
  .term rfl <| .term rfl <| .term rfl .nil

theorem foldPath_prefixedField_indexStack :
    Spells indexStack [.literal "item-", .variable "page", .key "index"] ∧
    (Operand.read "page" "index" []).value? (indexScope (.number (.int 3))) =
      some (.number (.int 3)) ∧
    foldPath indexStack (indexScope (.number (.int 3))) = .ok "item-3" ∧
    foldPath indexStack (indexScope (.bool false)) = .ok "item-" := by
  have htext : "item-" ≠ "" := by decide
  have hthree : (Operand.read "page" "index" []).value? (indexScope (.number (.int 3))) =
      some (.number (.int 3)) := rfl
  have hfalse : (Operand.read "page" "index" []).value? (indexScope (.bool false)) =
      some (.bool false) := rfl
  exact ⟨spells_indexStack, hthree,
    (foldPath_prefixedField (.inl spells_indexStack) htext hthree rfl).2.2 rfl,
    (foldPath_prefixedField (.inl spells_indexStack) htext hfalse rfl).1⟩

/-- The first index of all, a zero, does not reach the path. -/
theorem foldPath_zeroIndex :
    Spells indexStack [.literal "item-", .variable "page", .key "index"] ∧
    (Operand.read "page" "index" []).value? (indexScope (.number (.int 0))) =
      some (.number (.int 0)) ∧
    "item-" ++ (Json.number (.int 0)).scalarText = "item-0" ∧
    foldPath indexStack (indexScope (.number (.int 0))) = .ok "item-" :=
  ⟨spells_indexStack, rfl, rfl, rfl⟩

end TemplateBundler
