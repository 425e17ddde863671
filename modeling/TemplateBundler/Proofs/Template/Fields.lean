import TemplateBundler.Proofs.Json.Collapse
import TemplateBundler.Template.Token

/-!
# Fields: declared fields read and written

A node, a construct and an expression token have declared fields and keep all others in order. The
declared ones are written first. This module says what the readers of fields find in a row that has
been written in this way, and in any row at all.
-/

namespace TemplateBundler.Field

variable {key other : String} {declared : List String} {pairs : List (String × Json)}

/-! ## Occurrences -/

theorem given_append (key : String) (pairs more : List (String × Json)) :
    given key (pairs ++ more) = given key pairs ++ given key more := by
  rw [given, List.filter_append, List.map_append]
  rfl

theorem given_present (key : String) (value? : Option Json) :
    given key (Logic.present key value?) = value?.toList := by
  cases value? with
  | none => rfl
  | some value => simp [given, Logic.present]

theorem given_present_of_ne (h : other ≠ key) (value? : Option Json) :
    given key (Logic.present other value?) = [] := by
  cases value? with
  | none => rfl
  | some value => simp [given, Logic.present, h]

theorem given_collapseFields (key : String) (pairs : List (String × Json)) :
    given key (Json.collapseFields pairs) = (given key pairs).map Json.collapse := by
  rw [given, given, Json.collapseFields_eq_map, List.filter_map, List.map_map, List.map_map]
  rfl

/-! ## Readers -/

theorem text?_eq_some_iff {text : String} :
    text? key pairs = some text ↔ given key pairs = [.string text] := by
  unfold text?
  split
  · rename_i value hgiven
    rw [hgiven]
    cases value <;> simp [Json.asString?]
  · rename_i hgiven
    constructor
    · nofun
    · intro h
      exact absurd h (hgiven _)

/-- An optional field is absent, or given once: with null it counts as absent. -/
theorem optional?_eq_some_iff {value? : Option Json} :
    optional? key pairs = some value? ↔
      (given key pairs = [] ∧ value? = none) ∨
      (given key pairs = [.null] ∧ value? = none) ∨
      ∃ value, given key pairs = [value] ∧ value.isNull = false ∧ value? = some value := by
  unfold optional?
  split
  · rename_i hgiven
    rw [hgiven, Option.some.injEq, eq_comm]
    simp
  · rename_i value hgiven
    rw [hgiven, Option.some.injEq, eq_comm]
    cases value <;> simp [Json.isNull]
  · rename_i hnil hone
    constructor
    · nofun
    · rintro (⟨h, -⟩ | ⟨h, -⟩ | ⟨value, h, -⟩)
      · exact absurd h hnil
      · exact absurd h (hone _)
      · exact absurd h (hone _)

theorem isNull_of_optional? {value? : Option Json} (h : optional? key pairs = some value?) :
    ∀ value ∈ value?, value.isNull = false := by
  intro value hvalue
  rw [Option.mem_def] at hvalue
  subst hvalue
  rcases optional?_eq_some_iff.1 h with ⟨-, h⟩ | ⟨-, h⟩ | ⟨found, -, hnull, h⟩
  · cases h
  · cases h
  · cases h
    exact hnull

/-! ## Other fields -/

theorem others_eq_without (declared : List String) (pairs : List (String × Json)) :
    others declared pairs =
      Entries.without declared (Entries.ofPairs (Json.collapseFields pairs)) := by
  rw [others, Json.collapseFields_without, Entries.without_ofPairs]

theorem without_others (declared : List String) (pairs : List (String × Json)) :
    Entries.without declared (others declared pairs) = others declared pairs := by
  rw [others_eq_without, Entries.without_without]

theorem others_others (declared : List String) (pairs : List (String × Json)) :
    others declared (others declared pairs) = others declared pairs := by
  have hcollapse : Json.collapseFields (others declared pairs) = others declared pairs := by
    rw [others, Json.collapseFields_ofPairs, Json.collapseFields_collapseFields]
  calc others declared (others declared pairs)
      = Entries.ofPairs (Json.collapseFields (others declared pairs)) := by
        rw [others, without_others]
    _ = Entries.ofPairs (others declared pairs) := by rw [hcollapse]
    _ = others declared pairs := Entries.ofPairs_ofPairs _

theorem given_others (h : key ∈ declared) (pairs : List (String × Json)) :
    given key (others declared pairs) = [] := by
  rw [others_eq_without, given, Entries.without, List.filter_filter, List.map_eq_nil_iff,
    List.filter_eq_nil_iff]
  intro pair _ hpair
  simp only [Bool.and_eq_true, decide_eq_true_eq, Bool.not_eq_true', List.contains_eq_mem] at hpair
  obtain ⟨rfl, hdeclared⟩ := hpair
  simp [h] at hdeclared

/-! ## Rows of fields -/

/-- Declared fields, as far as they are present, before others. -/
def row (front : List (String × Option Json)) (rest : List (String × Json)) :
    List (String × Json) :=
  (front.flatMap fun field => Logic.present field.1 field.2) ++ rest

variable {front : List (String × Option Json)}

theorem given_front_of_notMem (h : key ∉ front.map Prod.fst) :
    given key (front.flatMap fun field => Logic.present field.1 field.2) = [] := by
  induction front with
  | nil => rfl
  | cons field front ih =>
    rw [List.map_cons, List.mem_cons, not_or] at h
    rw [List.flatMap_cons, given_append, given_present_of_ne (Ne.symm h.1), ih h.2]
    rfl

theorem given_front {value? : Option Json} (hkeys : (front.map Prod.fst).Nodup)
    (hmem : (key, value?) ∈ front) :
    given key (front.flatMap fun field => Logic.present field.1 field.2) = value?.toList := by
  induction front with
  | nil => cases hmem
  | cons field front ih =>
    rw [List.map_cons, List.nodup_cons] at hkeys
    rw [List.flatMap_cons, given_append]
    rcases List.mem_cons.1 hmem with rfl | hmem
    · rw [given_present, given_front_of_notMem hkeys.1, List.append_nil]
    · have hne : field.1 ≠ key := by
        intro heq
        exact hkeys.1 (List.mem_map.2 ⟨(key, value?), hmem, heq.symm⟩)
      rw [given_present_of_ne hne, ih hkeys.2 hmem, List.nil_append]

theorem given_row {value? : Option Json} (hfront : front.map Prod.fst = declared)
    (hdeclared : declared.Nodup) (hmem : (key, value?) ∈ front) (pairs : List (String × Json)) :
    given key (row front (others declared pairs)) = value?.toList := by
  have hkey : key ∈ declared := by
    rw [← hfront]
    exact List.mem_map.2 ⟨(key, value?), hmem, rfl⟩
  subst hfront
  rw [row, given_append, given_front hdeclared hmem, given_others hkey, List.append_nil]

theorem keys_front_sublist (front : List (String × Option Json)) :
    (Entries.keys (front.flatMap fun field => Logic.present field.1 field.2)).Sublist
      (front.map Prod.fst) := by
  induction front with
  | nil => exact List.Sublist.slnil
  | cons field front ih =>
    obtain ⟨key, value?⟩ := field
    cases value? with
    | none => exact ih.cons key
    | some value => exact ih.cons_cons key

/-- Each key of a row stands once, so the row is written as it is. -/
theorem ofPairs_row (hfront : front.map Prod.fst = declared) (hdeclared : declared.Nodup)
    (pairs : List (String × Json)) :
    Entries.ofPairs (row front (others declared pairs)) = row front (others declared pairs) := by
  apply Entries.ofPairs_of_nodup
  rw [row, Entries.keys, List.map_append]
  have hkeys := keys_front_sublist front
  rw [hfront] at hkeys
  refine List.Nodup.append (hkeys.nodup hdeclared) (Entries.nodup_keys_ofPairs _) ?_
  · intro key hkey hother
    obtain ⟨pair, hpair, rfl⟩ := List.mem_map.1 hother
    have hgiven := given_others (hkeys.subset hkey) pairs
    rw [given, List.map_eq_nil_iff, List.filter_eq_nil_iff] at hgiven
    simpa using hgiven pair hpair

theorem text?_row {text : String} (hfront : front.map Prod.fst = declared)
    (hdeclared : declared.Nodup) (hmem : (key, some (.string text)) ∈ front)
    (pairs : List (String × Json)) :
    text? key (row front (others declared pairs)) = some text :=
  text?_eq_some_iff.2 (given_row hfront hdeclared hmem pairs)

theorem optional?_row {value? : Option Json} (hfront : front.map Prod.fst = declared)
    (hdeclared : declared.Nodup) (hmem : (key, value?) ∈ front)
    (hnull : ∀ value ∈ value?, value.isNull = false) (pairs : List (String × Json)) :
    optional? key (row front (others declared pairs)) = some value? := by
  have hgiven := given_row hfront hdeclared hmem pairs
  rw [optional?_eq_some_iff]
  cases value? with
  | none => exact .inl ⟨hgiven, rfl⟩
  | some value => exact .inr (.inr ⟨value, hgiven, hnull value rfl, rfl⟩)

theorem without_front (hfront : front.map Prod.fst = declared) :
    Entries.without declared (front.flatMap fun field => Logic.present field.1 field.2) = [] := by
  rw [Entries.without, List.filter_eq_nil_iff]
  intro pair hpair
  obtain ⟨⟨key, value?⟩, hfield, hpair⟩ := List.mem_flatMap.1 hpair
  have hkey : key ∈ declared := by
    rw [← hfront]
    exact List.mem_map.2 ⟨(key, value?), hfield, rfl⟩
  cases value? with
  | none => cases hpair
  | some value =>
    rw [Logic.present, List.mem_singleton] at hpair
    rw [hpair]
    simpa using hkey

/-- The other fields of a row are found again. -/
theorem others_row (hfront : front.map Prod.fst = declared) (pairs : List (String × Json)) :
    others declared (row front (others declared pairs)) = others declared pairs := by
  have hbehind : Entries.without declared (row front (others declared pairs)) =
      Entries.without declared (others declared pairs) := by
    rw [row, Entries.without_append, without_front hfront, List.nil_append]
  calc others declared (row front (others declared pairs))
      = others declared (others declared pairs) := by
        rw [others, hbehind]
        rfl
    _ = others declared pairs := others_others declared pairs

end TemplateBundler.Field
