/-!
# Search: parts of a text

What stands behind a given beginning, and around the first occurrence of a pattern.
-/

namespace TemplateBundler.Text

def dropFront? : (front text : List Char) → Option (List Char)
  | [], text => some text
  | _ :: _, [] => none
  | a :: front, b :: text => if a = b then dropFront? front text else none

theorem dropFront?_eq_some_iff {front text rest : List Char} :
    dropFront? front text = some rest ↔ text = front ++ rest := by
  induction front generalizing text with
  | nil => simp [dropFront?, eq_comm]
  | cons a front ih =>
    cases text with
    | nil => simp [dropFront?]
    | cons b text =>
      by_cases h : a = b
      · simp [dropFront?, h, ih]
      · simp [dropFront?, h, Ne.symm h]

theorem dropFront?_append (front rest : List Char) : dropFront? front (front ++ rest) = some rest :=
  dropFront?_eq_some_iff.2 rfl

theorem dropFront?_eq_none_iff {front text : List Char} :
    dropFront? front text = none ↔ ¬ front <+: text := by
  rw [Option.eq_none_iff_forall_ne_some]
  constructor
  · rintro h ⟨rest, hrest⟩
    exact h rest (dropFront?_eq_some_iff.2 hrest.symm)
  · intro h rest hrest
    exact h ⟨rest, (dropFront?_eq_some_iff.1 hrest).symm⟩

/-- What stands before and behind the first occurrence of a pattern. -/
def splitAtFirst? (pattern : List Char) : (text : List Char) → Option (List Char × List Char)
  | [] => if pattern = [] then some ([], []) else none
  | c :: text =>
    match dropFront? pattern (c :: text) with
    | some behind => some ([], behind)
    | none => (splitAtFirst? pattern text).map fun (before, behind) => (c :: before, behind)

def occurs (pattern text : List Char) : Bool := (splitAtFirst? pattern text).isSome

theorem occurs_iff {pattern text : List Char} : occurs pattern text = true ↔ pattern <:+: text := by
  unfold occurs
  induction text with
  | nil => by_cases h : pattern = [] <;> simp [splitAtFirst?, h]
  | cons c text ih =>
    rw [List.infix_cons_iff, splitAtFirst?]
    cases h : dropFront? pattern (c :: text) with
    | some behind =>
      rw [dropFront?_eq_some_iff] at h
      simp [h]
    | none =>
      have hf := dropFront?_eq_none_iff.1 h
      rw [Option.isSome_map, ih]
      simp [hf]

def replaceFirst? (pattern replacement text : List Char) : Option (List Char) :=
  (splitAtFirst? pattern text).map fun (before, behind) => before ++ replacement ++ behind

end TemplateBundler.Text
