import Mathlib.Data.List.Basic
import Mathlib.Data.List.Induction
import Mathlib.Data.List.Perm.Lattice
import TemplateBundler.Dependencies

/-!
# Dependencies: each path once, where it stands first

Repeats are left out in one pass that keeps what it has seen. What has been seen acts on the rest of
the list in a single way, it leaves paths out, so a list can be scanned in parts.
-/

namespace TemplateBundler.Dependencies

variable {paths kept : List String} {path other : String}

/-! ## What the pass gives -/

theorem uniqueAfter_eq_eraseDups (seen paths : List String) :
    uniqueAfter seen paths = (paths.filter fun path => path ∉ seen).eraseDups := by
  induction paths generalizing seen with
  | nil => rfl
  | cons path rest ih =>
    by_cases h : path ∈ seen
    · simp [uniqueAfter, h, ih]
    · rw [uniqueAfter, if_neg h, ih, List.filter_cons_of_pos (by simpa using h),
        List.eraseDups_cons, List.filter_filter]
      congr 3
      funext other
      simp [not_or, beq_eq_decide]

theorem unique_eq_eraseDups (paths : List String) : unique paths = paths.eraseDups := by
  rw [unique, uniqueAfter_eq_eraseDups]
  simp

@[simp]
theorem mem_unique : path ∈ unique paths ↔ path ∈ paths := by
  rw [unique_eq_eraseDups, List.mem_eraseDups]

/-! ## Scanning in parts -/

/-- What has been seen before is left out, and the rest stays as it is without it. -/
theorem uniqueAfter_eq_filter (seen paths : List String) :
    uniqueAfter seen paths = (unique paths).filter fun path => path ∉ seen := by
  induction paths generalizing seen with
  | nil => rfl
  | cons path rest ih =>
    -- both passes come to the rest, one of them with only this path behind it
    have hrest : unique (path :: rest) = path :: (unique rest).filter fun p => p ∉ [path] := by
      rw [unique, uniqueAfter, if_neg List.not_mem_nil, ih [path]]
    rw [uniqueAfter, hrest]
    by_cases h : path ∈ seen
    · rw [if_pos h, ih seen, List.filter_cons_of_neg (by simpa using h), List.filter_filter]
      apply List.filter_congr
      intro p _
      by_cases hp : p ∈ seen
      · simp [hp]
      · have hne : p ≠ path := fun heq => hp (heq ▸ h)
        simp [hp, hne]
    · rw [if_neg h, ih (path :: seen), List.filter_cons_of_pos (by simpa using h),
        List.filter_filter]
      simp [Bool.and_comm]

theorem unique_append (paths more : List String) :
    unique (paths ++ more) = unique paths ++ (unique more).filter fun path => path ∉ paths := by
  have hmore : more.removeAll paths = more.filter fun path => path ∉ paths := by
    simp [List.removeAll]
  rw [unique_eq_eraseDups, List.eraseDups_append, hmore, ← uniqueAfter_eq_eraseDups,
    ← unique_eq_eraseDups, uniqueAfter_eq_filter]

theorem unique_concat (paths : List String) (path : String) :
    unique (paths ++ [path]) =
      if path ∈ paths then unique paths else unique paths ++ [path] := by
  have hlast : unique [path] = [path] := rfl
  rw [unique_append, hlast, List.filter_singleton]
  by_cases h : path ∈ paths
  · simp [h]
  · simp [h]

/-! ## The order of first places -/

theorem unique_pairwise (paths : List String) :
    (unique paths).Pairwise fun path later => paths.idxOf path < paths.idxOf later := by
  induction paths using List.reverseRecOn with
  | nil => exact List.Pairwise.nil
  | append_singleton paths last ih =>
    -- a path that is appended has its first place behind all others or where it had one before
    have hold : (unique paths).Pairwise fun path later =>
        (paths ++ [last]).idxOf path < (paths ++ [last]).idxOf later := by
      refine ih.imp_of_mem fun hpath hlater hlt => ?_
      rwa [List.idxOf_append_of_mem (mem_unique.1 hpath),
        List.idxOf_append_of_mem (mem_unique.1 hlater)]
    rw [unique_concat]
    by_cases hlast : last ∈ paths
    · rw [if_pos hlast]
      exact hold
    · rw [if_neg hlast, List.pairwise_append]
      refine ⟨hold, List.pairwise_singleton _ last, fun path hpath later hlater => ?_⟩
      obtain rfl := List.mem_singleton.1 hlater
      rw [List.idxOf_append_of_mem (mem_unique.1 hpath), List.idxOf_append_of_notMem hlast]
      exact Nat.lt_add_right _ (List.idxOf_lt_length_of_mem (mem_unique.1 hpath))

/-- Paths that come in the order of their places in some list are all different. -/
theorem nodup_of_pairwise_idxOf
    (h : kept.Pairwise fun path later => paths.idxOf path < paths.idxOf later) : kept.Nodup :=
  h.imp fun hlt heq => Nat.ne_of_lt hlt (congrArg (paths.idxOf ·) heq)

theorem nodup_unique (paths : List String) : (unique paths).Nodup :=
  nodup_of_pairwise_idxOf (unique_pairwise paths)

/-- The members and the order in which they stand first determine the result. -/
theorem eq_unique_iff :
    kept = unique paths ↔
      (∀ path, path ∈ kept ↔ path ∈ paths) ∧
        kept.Pairwise fun path later => paths.idxOf path < paths.idxOf later := by
  constructor
  · rintro rfl
    exact ⟨fun _ => mem_unique, unique_pairwise paths⟩
  · rintro ⟨hmem, horder⟩
    have hperm : kept.Perm (unique paths) := by
      rw [List.perm_ext_iff_of_nodup (nodup_of_pairwise_idxOf horder) (nodup_unique paths)]
      exact fun path => (hmem path).trans mem_unique.symm
    refine hperm.eq_of_pairwise ?_ horder (unique_pairwise paths)
    exact fun _ _ _ _ hlt hgt => absurd hgt (Nat.lt_asymm hlt)

theorem unique_of_nodup (h : paths.Nodup) : unique paths = paths := by
  have horder : paths.Pairwise fun path later => paths.idxOf path < paths.idxOf later := by
    rw [List.pairwise_iff_getElem]
    intro i j hi hj hlt
    rwa [h.idxOf_getElem i hi, h.idxOf_getElem j hj]
  exact (eq_unique_iff.2 ⟨fun _ => Iff.rfl, horder⟩).symm

theorem idxOf_lt_of_idxOf_unique_lt (hother : other ∈ paths)
    (h : (unique paths).idxOf path < (unique paths).idxOf other) :
    paths.idxOf path < paths.idxOf other := by
  have hj : (unique paths).idxOf other < (unique paths).length :=
    List.idxOf_lt_length_of_mem (mem_unique.2 hother)
  have hlt := List.pairwise_iff_getElem.1 (unique_pairwise paths) _ _ (Nat.lt_trans h hj) hj h
  rwa [List.getElem_idxOf, List.getElem_idxOf] at hlt

theorem idxOf_unique_lt_iff (hpath : path ∈ paths) (hother : other ∈ paths) :
    (unique paths).idxOf path < (unique paths).idxOf other ↔
      paths.idxOf path < paths.idxOf other := by
  constructor
  · exact idxOf_lt_of_idxOf_unique_lt hother
  · intro h
    rcases Nat.lt_trichotomy ((unique paths).idxOf path) ((unique paths).idxOf other) with
      hlt | heq | hgt
    · exact hlt
    · rw [List.idxOf_inj (mem_unique.2 hpath)] at heq
      exact absurd (congrArg (paths.idxOf ·) heq) (Nat.ne_of_lt h)
    · exact absurd (idxOf_lt_of_idxOf_unique_lt hpath hgt) (Nat.lt_asymm h)

/-- **Leaving out repeats is stable and incremental.** No path is repeated, none is lost or added,
and of two paths the one that stands first earlier comes first. Where paths are appended, those that
are new follow what there was, so nothing that is there is moved or removed. Leaving out repeats once
more changes nothing. -/
theorem unique_stable (paths more : List String) :
    (unique paths).Nodup ∧
    (∀ path, path ∈ unique paths ↔ path ∈ paths) ∧
    (∀ path ∈ paths, ∀ other ∈ paths,
      ((unique paths).idxOf path < (unique paths).idxOf other ↔
        paths.idxOf path < paths.idxOf other)) ∧
    unique (paths ++ more) = unique paths ++ (unique more).filter (fun path => path ∉ paths) ∧
    (∀ path ∈ paths, (unique (paths ++ more)).idxOf path = (unique paths).idxOf path) ∧
    unique (unique paths) = unique paths := by
  have happend := unique_append paths more
  refine ⟨nodup_unique paths, fun _ => mem_unique, ?_, happend, ?_, ?_⟩
  · exact fun _ hpath _ hother => idxOf_unique_lt_iff hpath hother
  · intro path hpath
    rw [happend, List.idxOf_append_of_mem (mem_unique.2 hpath)]
  · exact unique_of_nodup (nodup_unique paths)

/-- Of two further paths one is new, and it follows those that are there. -/
theorem unique_stable_twoRounds :
    "B" ∈ ["A", "B", "A"] ∧
    unique ["A", "B", "A"] = ["A", "B"] ∧
    unique ["A", "B", "A", "C", "B"] = ["A", "B", "C"] ∧
    (unique ["A", "B", "A", "C", "B"]).idxOf "B" = (unique ["A", "B", "A"]).idxOf "B" := by
  have hmem : "B" ∈ ["A", "B", "A"] := by decide
  exact ⟨hmem, rfl, rfl, (unique_stable ["A", "B", "A"] ["C", "B"]).2.2.2.2.1 "B" hmem⟩

end TemplateBundler.Dependencies
