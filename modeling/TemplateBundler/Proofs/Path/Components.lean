import Mathlib.Data.List.Basic
import TemplateBundler.Path.Basic

/-!
# Components of paths: joining and order

A name behind a path adds one component to it. Paths are ordered by their components, and this order
is linear: no component stands beside another.
-/

namespace TemplateBundler.Path

/-! ## Segments -/

/-- The text is the name of an entry: it is one segment that leads into a directory and not to the
directory itself or the one above. -/
structure IsName (name : List Char) : Prop where
  ne_nil : name ≠ []
  ne_dot : name ≠ ['.']
  ne_dots : name ≠ ['.', '.']
  slash_notMem : '/' ∉ name

theorem isName_iff {name : List Char} :
    IsName name ↔ name ≠ [] ∧ name ≠ ['.'] ∧ name ≠ ['.', '.'] ∧ '/' ∉ name :=
  ⟨fun h => ⟨h.1, h.2, h.3, h.4⟩, fun h => ⟨h.1, h.2.1, h.2.2.1, h.2.2.2⟩⟩

instance (name : List Char) : Decidable (IsName name) := decidable_of_iff _ isName_iff.symm

theorem segments_ne_nil (text : List Char) : segments text ≠ [] := by
  cases text with
  | nil => simp [segments]
  | cons c rest =>
    rw [segments]
    split
    · simp
    · split <;> simp

theorem slash_notMem_of_mem_segments {text segment : List Char} (h : segment ∈ segments text) :
    '/' ∉ segment := by
  induction text generalizing segment with
  | nil =>
    rw [segments, List.mem_singleton] at h
    simp [h]
  | cons c rest ih =>
    obtain ⟨first, others, hrest⟩ := List.exists_cons_of_ne_nil (segments_ne_nil rest)
    rw [hrest, List.forall_mem_cons] at ih
    rw [segments, hrest] at h
    by_cases hc : c = '/'
    · rw [if_pos hc, List.mem_cons] at h
      rcases h with rfl | h
      · simp
      · rw [List.mem_cons] at h
        rcases h with rfl | h
        · exact ih.1
        · exact ih.2 segment h
    · rw [if_neg hc, List.mem_cons] at h
      rcases h with rfl | h
      · simpa [Ne.symm hc] using ih.1
      · exact ih.2 segment h

theorem segments_append_slash (before behind : List Char) :
    segments (before ++ '/' :: behind) = segments before ++ segments behind := by
  induction before with
  | nil => simp [segments]
  | cons c before ih =>
    rw [List.cons_append, segments, segments, ih]
    obtain ⟨first, others, hbefore⟩ := List.exists_cons_of_ne_nil (segments_ne_nil before)
    by_cases hc : c = '/'
    · rw [if_pos hc, if_pos hc, List.cons_append]
    · rw [if_neg hc, if_neg hc, hbefore]
      rfl

theorem segments_of_slash_notMem {text : List Char} (h : '/' ∉ text) : segments text = [text] := by
  induction text with
  | nil => rfl
  | cons c rest ih =>
    rw [List.mem_cons, not_or] at h
    rw [segments, if_neg (Ne.symm h.1), ih h.2]

theorem ne_nil_of_isAbsolute {path : List Char} (h : isAbsolute path = true) : path ≠ [] := by
  rintro rfl
  cases h

theorem isAbsolute_append {front : List Char} (h : front ≠ []) (behind : List Char) :
    isAbsolute (front ++ behind) = isAbsolute front := by
  obtain ⟨c, rest, rfl⟩ := List.exists_cons_of_ne_nil h
  rfl

/-- A relative path is joined to a path by exactly one slash, which the latter may already end
with. -/
theorem join_relative {base path : List Char} (hb : base ≠ []) (hr : isAbsolute path = false) :
    ∃ front, join base path = front ++ '/' :: path ∧ (base = front ∨ base = front ++ ['/']) := by
  unfold join
  simp only [hr, Bool.false_eq_true, if_false, hb, false_or]
  by_cases hs : base.getLast? = some '/'
  · obtain ⟨front, rfl⟩ := List.getLast?_eq_some_iff.1 hs
    exact ⟨front, by simp, Or.inr rfl⟩
  · rw [if_neg hs]
    exact ⟨base, rfl, Or.inl rfl⟩

theorem join_name {base name : List Char} (hb : base ≠ []) (hn : IsName name) :
    ∃ front, join base name = front ++ '/' :: name ∧ (base = front ∨ base = front ++ ['/']) := by
  obtain ⟨c, rest, rfl⟩ := List.exists_cons_of_ne_nil hn.ne_nil
  have hc : c ≠ '/' := fun h => hn.slash_notMem (by simp [h])
  exact join_relative hb (by simp [isAbsolute, hc])

theorem join_name_ne_nil {base name : List Char} (hb : base ≠ []) (hn : IsName name) :
    join base name ≠ [] := by
  obtain ⟨front, h, -⟩ := join_name hb hn
  simp [h]

/-! ## Components -/

theorem component?_name {name : List Char} (hn : IsName name) :
    component? name = some (.name name) := by
  simp [component?, hn.ne_nil, hn.ne_dot, hn.ne_dots]

/-- How a path begins decides whether its components begin with the root or a dot. -/
theorem components_append_slash {front behind : List Char} (h : front ≠ []) :
    components (front ++ '/' :: behind) =
      components front ++ (segments behind).filterMap component? := by
  have ha := isAbsolute_append h ('/' :: behind)
  have hh : (segments front ++ segments behind).head? = (segments front).head? := by
    obtain ⟨first, others, hfront⟩ := List.exists_cons_of_ne_nil (segments_ne_nil front)
    rw [hfront]
    rfl
  unfold components
  rw [segments_append_slash, ha, hh, List.filterMap_append]
  split
  · rfl
  · split <;> rfl

/-- A name behind a path is one more component. -/
theorem components_join {base name : List Char} (hb : base ≠ []) (hn : IsName name) :
    components (join base name) = components base ++ [.name name] := by
  have hs : (segments name).filterMap component? = [.name name] := by
    rw [segments_of_slash_notMem hn.slash_notMem]
    simp [component?_name hn]
  obtain ⟨front, hj, hfront⟩ := join_name hb hn
  rw [hj]
  by_cases hf : front = []
  · -- only the root directory has nothing in front of its slash
    have : base = ['/'] := by
      rcases hfront with rfl | rfl
      · exact absurd hf hb
      · simp [hf]
    subst this hf
    simp [components, segments, isAbsolute, hs, component?]
  · rw [components_append_slash hf, hs]
    rcases hfront with rfl | rfl
    · rfl
    · rw [components_append_slash hf]
      simp [segments, component?]

/-! ## Order -/

def Component.key (component : Component) : List Nat :=
  component.rank :: component.chars.map Char.toNat

theorem Component.key_injective {a b : Component} (h : a.key = b.key) : a = b := by
  simp only [Component.key, List.cons.injEq] at h
  have hc : a.chars = b.chars := List.map_injective_iff.2 (fun _ _ => Char.toNat_inj.1) h.2
  cases a <;> cases b <;> simp_all [Component.rank, Component.chars]

theorem compareChars_eq (s t : List Char) :
    compareChars s t = compare (s.map Char.toNat) (t.map Char.toNat) := by
  induction s generalizing t with
  | nil => cases t <;> rfl
  | cons a s ih =>
    cases t with
    | nil => rfl
    | cons b t =>
      rw [compareChars, ih, List.map_cons, List.map_cons, List.compare_cons_cons]

theorem Component.order_eq (a b : Component) : a.order b = compare a.key b.key := by
  cases a <;> cases b
  case name.name s t =>
    have hr : compare (rank (.name s)) (rank (.name t)) = .eq := rfl
    rw [key, key, List.compare_cons_cons, hr]
    exact compareChars_eq s t
  -- components of different kinds are told apart by their ranks
  all_goals rfl

theorem compareComponents_eq (as bs : List Component) :
    compareComponents as bs = compare (as.map Component.key) (bs.map Component.key) := by
  induction as generalizing bs with
  | nil => cases bs <;> rfl
  | cons a as ih =>
    cases bs with
    | nil => rfl
    | cons b bs =>
      rw [compareComponents, ih, Component.order_eq, List.map_cons, List.map_cons,
        List.compare_cons_cons]

def orderKey (path : String) : List (List Nat) := (components path.toList).map Component.key

theorem same_iff {a b : String} : same a b = true ↔ orderKey a = orderKey b := by
  have hinj : Function.Injective Component.key := fun _ _ => Component.key_injective
  rw [same, beq_iff_eq, orderKey, orderKey, (List.map_injective_iff.2 hinj).eq_iff]

theorem le_iff {a b : String} : le a b = true ↔ (compare (orderKey a) (orderKey b)).isLE := by
  rw [le, compareComponents_eq, orderKey, orderKey]
  cases compare ((components a.toList).map Component.key) ((components b.toList).map Component.key)
    <;> decide

theorem le_trans {a b c : String} (hab : le a b = true) (hbc : le b c = true) : le a c = true := by
  rw [le_iff] at *
  exact Std.TransCmp.isLE_trans hab hbc

theorem le_total (a b : String) : le a b = true ∨ le b a = true := by
  rw [le_iff, le_iff, Std.OrientedOrd.eq_swap (a := orderKey b)]
  cases compare (orderKey a) (orderKey b) <;> decide

/-- One path comes before another, and they are not the same. -/
def Before (a b : String) : Prop :=
  compareComponents (components a.toList) (components b.toList) = .lt

theorem before_iff {a b : String} : Before a b ↔ compare (orderKey a) (orderKey b) = .lt := by
  rw [Before, compareComponents_eq, orderKey, orderKey]

instance : Std.Irrefl Before where
  irrefl a h := by
    rw [before_iff, Std.ReflOrd.compare_self] at h
    cases h

instance : Std.Antisymm Before where
  antisymm a b hab hba := by
    rw [before_iff] at hab hba
    rw [Std.OrientedOrd.eq_swap, hba] at hab
    cases hab

theorem before_of_le {a b : String} (h : le a b = true) (hs : ¬ same a b = true) : Before a b := by
  rw [le_iff, Ordering.isLE_iff_eq_lt_or_eq_eq] at h
  rw [same_iff] at hs
  rw [before_iff]
  exact h.resolve_right fun heq => hs (Std.LawfulEqCmp.eq_of_compare heq)

theorem Before.trans_le {a b c : String} (hab : Before a b) (hbc : le b c = true) : Before a c := by
  rw [before_iff] at hab ⊢
  rw [le_iff] at hbc
  exact Std.TransCmp.lt_of_lt_of_isLE hab hbc

end TemplateBundler.Path
