import Mathlib.Data.List.Forall2
import Mathlib.Data.List.Induction
import Mathlib.Data.List.Permutation
import TemplateBundler.Proofs.Files.Discovery

/-!
# Union: the templates below all namespaces

The roots of the namespaces are searched one after another. What is found is put together in order,
and a path is left out if an earlier one spells the same path. Roots may be repeated, lie inside each
other, or be spelled in different ways.
-/

namespace TemplateBundler

namespace Path

theorem same_refl (path : String) : same path path = true := by simp [same]

theorem same_comm (a b : String) : same a b = same b a := by
  rw [same, same, Bool.eq_iff_iff, beq_iff_eq, beq_iff_eq, eq_comm]

theorem same_trans {a b c : String} (hab : same a b = true) (hbc : same b c = true) :
    same a c = true := by
  rw [same, beq_iff_eq] at *
  exact hab.trans hbc

end Path

namespace FileTree

/-- Some path of the list is the same as this one. -/
def Represented (paths : List String) (path : String) : Prop :=
  ∃ other ∈ paths, Path.same other path = true

instance (paths : List String) (path : String) : Decidable (Represented paths path) :=
  inferInstanceAs (Decidable (∃ other ∈ paths, _))

/-- The paths that are the same as no earlier one. -/
def firsts (paths : List String) : List String :=
  (paths.zipIdx.filter fun entry => ¬ Represented (paths.take entry.2) entry.1).map Prod.fst

variable {paths : List String} {path : String}

/-! ## Leaving out what is there already -/

theorem represented_append {more : List String} :
    Represented (paths ++ more) path ↔ Represented paths path ∨ Represented more path := by
  simp [Represented, or_and_right, exists_or]

theorem Represented.of_same {other : String} (h : Represented paths other)
    (hs : Path.same other path = true) : Represented paths path := by
  obtain ⟨kept, hkept, hsame⟩ := h
  exact ⟨kept, hkept, Path.same_trans hsame hs⟩

theorem any_same_iff : paths.any (Path.same path) = true ↔ Represented paths path := by
  rw [List.any_eq_true]
  refine exists_congr fun other => and_congr_right fun _ => ?_
  rw [Path.same_comm]

theorem firsts_concat (paths : List String) (path : String) :
    firsts (paths ++ [path]) =
      if Represented paths path then firsts paths else firsts paths ++ [path] := by
  -- the last path has all others before it, and each of these has the same paths before it as ever
  have hold : (paths.zipIdx.filter fun entry =>
        ¬ Represented ((paths ++ [path]).take entry.2) entry.1) =
      paths.zipIdx.filter fun entry => ¬ Represented (paths.take entry.2) entry.1 := by
    apply List.filter_congr
    intro entry hentry
    have hlt := (List.mem_zipIdx hentry).2.1
    rw [List.take_append_of_le_length (by omega)]
  have hlast : [path].zipIdx (0 + paths.length) = [(path, paths.length)] := by simp
  rw [firsts, firsts, List.zipIdx_append, hlast, List.filter_append, hold, List.map_append,
    List.filter_singleton, List.take_left]
  by_cases hpath : Represented paths path
  · simp [hpath]
  · simp [hpath]

theorem represented_firsts : Represented (firsts paths) path ↔ Represented paths path := by
  induction paths using List.reverseRecOn with
  | nil => rfl
  | append_singleton paths last ih =>
    rw [firsts_concat, represented_append]
    by_cases hlast : Represented paths last
    · rw [if_pos hlast, ih]
      constructor
      · exact Or.inl
      · rintro (h | ⟨other, hother, hs⟩)
        · exact h
        · obtain rfl := List.mem_singleton.1 hother
          exact hlast.of_same hs
    · rw [if_neg hlast, represented_append, ih]

theorem firsts_pairwise (paths : List String) :
    (firsts paths).Pairwise fun a b => Path.same a b = false := by
  induction paths using List.reverseRecOn with
  | nil => exact List.Pairwise.nil
  | append_singleton paths last ih =>
    rw [firsts_concat]
    by_cases hlast : Represented paths last
    · rw [if_pos hlast]
      exact ih
    · rw [if_neg hlast, List.pairwise_append]
      refine ⟨ih, List.pairwise_singleton _ last, ?_⟩
      intro a ha b hb
      obtain rfl := List.mem_singleton.1 hb
      rw [← Bool.not_eq_true]
      intro hs
      exact hlast (represented_firsts.1 ⟨a, ha, hs⟩)

theorem firsts_sublist (paths : List String) : (firsts paths).Sublist paths := by
  have hall : paths.zipIdx.map Prod.fst = paths := List.zipIdx_map_fst 0 paths
  calc (firsts paths).Sublist (paths.zipIdx.map Prod.fst) := List.filter_sublist.map Prod.fst
    _ = paths := hall

/-- New paths are compared with those that have been kept, and that is enough. -/
theorem addNew_firsts (paths new : List String) :
    addNew (firsts paths) new = firsts (paths ++ new) := by
  induction new generalizing paths with
  | nil => rw [addNew, List.append_nil]
  | cons path new ih =>
    have hnext := ih (paths ++ [path])
    rw [firsts_concat, List.append_assoc, List.singleton_append] at hnext
    rw [addNew, ← hnext]
    by_cases hpath : Represented paths path
    · rw [if_pos hpath, if_pos (any_same_iff.2 (represented_firsts.2 hpath))]
    · rw [if_neg hpath, if_neg]
      intro hany
      exact hpath (represented_firsts.1 (any_same_iff.1 hany))

/-! ## One root after another -/

section Search

variable {search : String → Except Failure (List String)} {namespaces : Namespaces}

def searchAll (search : String → Except Failure (List String)) (found : List String)
    (namespaces : Namespaces) : Except Failure (List String) :=
  namespaces.foldlM (fun found entry => (search entry.2).map (addNew found)) found

theorem searchAll_cons (found : List String) (entry : String × String) (namespaces : Namespaces) :
    searchAll search found (entry :: namespaces) =
      (search entry.2).bind fun new => searchAll search (addNew found new) namespaces := by
  rw [searchAll, List.foldlM_cons]
  cases search entry.2 <;> rfl

theorem searchAll_firsts (before : List String) :
    searchAll search (firsts before) namespaces = .ok paths ↔
      ∃ found, List.Forall₂ (fun entry new => search entry.2 = .ok new) namespaces found ∧
        paths = firsts (before ++ found.flatten) := by
  induction namespaces generalizing before with
  | nil =>
    simp [searchAll, pure, Except.pure, eq_comm]
  | cons entry namespaces ih =>
    rw [searchAll_cons]
    cases hsearch : search entry.2 with
    | error failure =>
      refine ⟨nofun, ?_⟩
      rintro ⟨found, hall, -⟩
      cases hall with
      | cons hhead _ => rw [hsearch] at hhead; cases hhead
    | ok new =>
      rw [Except.bind, addNew_firsts, ih]
      constructor
      · rintro ⟨found, hall, rfl⟩
        exact ⟨new :: found, .cons hsearch hall, by rw [List.flatten_cons, List.append_assoc]⟩
      · rintro ⟨found, hall, rfl⟩
        cases hall with
        | cons hhead htail =>
          rw [hsearch] at hhead
          cases hhead
          exact ⟨_, htail, by rw [List.flatten_cons, List.append_assoc]⟩

theorem searchAll_eq_ok_iff :
    searchAll search [] namespaces = .ok paths ↔
      ∃ found, List.Forall₂ (fun entry new => search entry.2 = .ok new) namespaces found ∧
        paths = firsts found.flatten :=
  searchAll_firsts []

theorem searchAll_isOk_iff (found : List String) :
    (∃ paths, searchAll search found namespaces = .ok paths) ↔
      ∀ entry ∈ namespaces, ∃ new, search entry.2 = .ok new := by
  induction namespaces generalizing found with
  | nil => simp [searchAll, pure, Except.pure]
  | cons entry namespaces ih =>
    rw [List.forall_mem_cons, searchAll_cons]
    cases hsearch : search entry.2 with
    | error failure => simp [Except.bind]
    | ok new =>
      rw [Except.bind, ih]
      simp

theorem searchAll_fails_iff :
    (∃ failure, searchAll search [] namespaces = .error failure) ↔
      ∃ entry ∈ namespaces, ∃ failure, search entry.2 = .error failure := by
  rw [exists_error_iff, searchAll_isOk_iff, not_forall]
  refine exists_congr fun entry => ?_
  rw [Classical.not_imp, exists_error_iff]

theorem searchAll_append (found : List String) (before after : Namespaces) :
    searchAll search found (before ++ after) =
      (searchAll search found before).bind fun done => searchAll search done after :=
  List.foldlM_append

/-- It fails as it does below the first root below which it fails. -/
theorem searchAll_eq_error_iff {found : List String} {failure : Failure} :
    searchAll search found namespaces = .error failure ↔
      ∃ before entry after, namespaces = before ++ entry :: after ∧
        (∀ other ∈ before, ∃ new, search other.2 = .ok new) ∧ search entry.2 = .error failure := by
  constructor
  · intro h
    induction namespaces generalizing found with
    | nil => cases h
    | cons entry namespaces ih =>
      rw [searchAll_cons] at h
      cases hsearch : search entry.2 with
      | error cause =>
        rw [hsearch] at h
        cases h
        exact ⟨[], entry, namespaces, rfl, by simp, hsearch⟩
      | ok new =>
        rw [hsearch] at h
        obtain ⟨before, other, after, rfl, hbefore, hother⟩ := ih h
        refine ⟨entry :: before, other, after, rfl, ?_, hother⟩
        exact List.forall_mem_cons.2 ⟨⟨new, hsearch⟩, hbefore⟩
  · rintro ⟨before, entry, after, rfl, hbefore, hentry⟩
    obtain ⟨done, hdone⟩ := (searchAll_isOk_iff found).2 hbefore
    rw [searchAll_append, hdone, Except.bind, searchAll_cons, hentry]
    rfl

def FoundBelow (search : String → Except Failure (List String)) (namespaces : Namespaces)
    (path : String) : Prop :=
  ∃ entry ∈ namespaces, ∃ new, search entry.2 = .ok new ∧ path ∈ new

theorem mem_flatten_iff {found : List (List String)}
    (h : List.Forall₂ (fun entry new => search entry.2 = .ok new) namespaces found) :
    path ∈ found.flatten ↔ FoundBelow search namespaces path := by
  induction h with
  | nil => simp [FoundBelow]
  | @cons entry new namespaces found hentry _ ih =>
    rw [List.flatten_cons, List.mem_append, ih]
    simp [FoundBelow, hentry]

theorem foundBelow_of_mem (h : searchAll search [] namespaces = .ok paths) (hpath : path ∈ paths) :
    FoundBelow search namespaces path := by
  obtain ⟨found, hall, rfl⟩ := searchAll_eq_ok_iff.1 h
  exact (mem_flatten_iff hall).1 ((firsts_sublist _).mem hpath)

/-- What is represented are the paths that are found, whatever the order of the namespaces. -/
theorem represented_iff (h : searchAll search [] namespaces = .ok paths) :
    Represented paths path ↔
      ∃ template, FoundBelow search namespaces template ∧ Path.same template path = true := by
  obtain ⟨found, hall, rfl⟩ := searchAll_eq_ok_iff.1 h
  rw [represented_firsts]
  refine exists_congr fun template => and_congr_left fun _ => ?_
  exact mem_flatten_iff hall

theorem foundBelow_perm {reordered : Namespaces} (h : namespaces.Perm reordered) :
    FoundBelow search namespaces path ↔ FoundBelow search reordered path :=
  exists_congr fun _ => and_congr_left fun _ => h.mem_iff

end Search

def leafTree : FileTree := ({} : FileTree).write "r/x.twig" []

def leafTable : Namespaces := [("outer", "r"), ("gone", "q"), ("again", "r//")]

theorem leafTree_discover {root : String} (hroot : leafTree.directory? root = some [['r']])
    (hfile : leafTree.directory? (child root "x.twig".toList) = none)
    (hmark : isTemplate (child root "x.twig".toList) = true) :
    leafTree.discover root = .ok [child root "x.twig".toList] := by
  have hentries : leafTree.entryNames [['r']] = ["x.twig".toList] := by cbv
  have hvisit : leafTree.visit (fun _ directory => leafTree.entryNames directory) [[['r']]] root
      "x.twig".toList = .ok [child root "x.twig".toList] := by
    rw [visit, hfile]
    simp only [hmark, if_true]
  rw [discover, discoverBy, hroot]
  simp only [hentries, collect_cons, collect_nil, hvisit, Except.bind, Except.map,
    List.append_nil, List.mergeSort_singleton, dropRepeats]

theorem leafTree_discover_missing : leafTree.discover "q" = .ok [] := by
  have hroot : leafTree.directory? "q" = none := by cbv
  rw [discover, discoverBy, hroot]

end FileTree

end TemplateBundler
