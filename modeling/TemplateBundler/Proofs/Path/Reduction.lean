import Mathlib.Data.List.Induction
import TemplateBundler.Path.Resolve
import TemplateBundler.Proofs.Path.Components

/-!
# Reduction: the names that a path leads through

An absolute path is followed segment by segment: a name leads further down, two dots lead back up,
and nothing leads above the root. The names that are left, with a slash before each, are the one
form that all spellings of the path resolve to.

* `Path.reduce`: the names that are left of a row of segments;
* `Path.IsCanonical`: the form of a resolved path;
* `Path.normalize_eq`: an absolute path without dots is what its segments reduce to;
* `Path.resolve_eq`, `Path.resolve_reduces`: so is every resolved path.
-/

namespace TemplateBundler.Path

/-! ## Segments on a stack -/

/-- One more segment behind the names so far: an empty one and a dot change nothing, two dots drop
the last name if there is one, and any other segment is a name. -/
def reduceStep (names : List (List Char)) (segment : List Char) : List (List Char) :=
  if segment = [] ∨ segment = ['.'] then names
  else if segment = ['.', '.'] then names.dropLast
  else names ++ [segment]

def reduce (segments : List (List Char)) : List (List Char) := segments.foldl reduceStep []

example : reduce (segments "/a/.//b/../../../c/".toList) = ["c".toList] := by decide

theorem isName_reduceStep {names : List (List Char)} {segment : List Char}
    (hnames : ∀ name ∈ names, IsName name) (hsegment : '/' ∉ segment) :
    ∀ name ∈ reduceStep names segment, IsName name := by
  unfold reduceStep
  split_ifs with hnone hup
  · exact hnames
  · exact fun name hname => hnames name (List.dropLast_subset names hname)
  · rw [not_or] at hnone
    rw [List.forall_mem_append, List.forall_mem_singleton]
    exact ⟨hnames, hnone.1, hnone.2, hup, hsegment⟩

theorem isName_foldl_reduceStep {names segments : List (List Char)}
    (hnames : ∀ name ∈ names, IsName name) (hsegments : ∀ segment ∈ segments, '/' ∉ segment) :
    ∀ name ∈ segments.foldl reduceStep names, IsName name := by
  induction segments generalizing names with
  | nil => exact hnames
  | cons segment segments ih =>
    obtain ⟨hsegment, hrest⟩ := List.forall_mem_cons.1 hsegments
    exact ih (isName_reduceStep hnames hsegment) hrest

theorem isName_of_mem_reduce {path name : List Char} (h : name ∈ reduce (segments path)) :
    IsName name :=
  isName_foldl_reduceStep (List.forall_mem_nil _)
    (fun _ hsegment => slash_notMem_of_mem_segments hsegment) name h

/-! ## Names on the way -/

/-- The way from the root through the names, the innermost one first. -/
def wayThrough (names : List (List Char)) : List Component :=
  (names.map Component.name).reverse ++ [.root]

theorem wayThrough_concat (names : List (List Char)) (name : List Char) :
    wayThrough (names ++ [name]) = .name name :: wayThrough names := by
  simp [wayThrough]

theorem enter_up (names : List (List Char)) :
    enter (wayThrough names) .up = wayThrough names.dropLast := by
  cases names using List.reverseRecOn with
  | nil => rfl
  | append_singleton names name =>
    rw [wayThrough_concat, List.dropLast_concat]
    rfl

/-- The way goes through the names that are left of the segments. -/
theorem foldl_enter (names segments : List (List Char)) :
    (segments.filterMap component?).foldl enter (wayThrough names) =
      wayThrough (segments.foldl reduceStep names) := by
  induction segments generalizing names with
  | nil => rfl
  | cons segment segments ih =>
    rw [List.foldl_cons, ← ih, List.filterMap_cons, reduceStep]
    unfold component?
    split_ifs with hnone hup
    · rfl
    · rw [← enter_up]
      rfl
    · rw [wayThrough_concat]
      rfl

theorem ofComponents_wayThrough (names : List (List Char)) :
    ofComponents (wayThrough names).reverse = '/' :: joinSegments names := by
  simp [wayThrough, ofComponents, Component.chars, Function.comp_def]

theorem normalize_eq {path : List Char} (h : isAbsolute path = true) :
    normalize path = '/' :: joinSegments (reduce (segments path)) := by
  have hcomponents : components path = .root :: (segments path).filterMap component? := by
    rw [components, if_pos h]
  rw [normalize, hcomponents, List.foldl_cons, ← ofComponents_wayThrough, reduce, ← foldl_enter]
  rfl

/-! ## The form of a resolved path -/

/-- The root, or names with a slash before each. -/
structure IsCanonical (path : List Char) : Prop where
  absolute : isAbsolute path = true
  names : path ≠ ['/'] → ∀ segment ∈ (segments path).tail, IsName segment
  no_trailing_slash : path ≠ ['/'] → path.getLast? ≠ some '/'

theorem joinSegments_cons (name : List Char) {names : List (List Char)} (hne : names ≠ []) :
    joinSegments (name :: names) = name ++ '/' :: joinSegments names := by
  obtain ⟨next, names, rfl⟩ := List.exists_cons_of_ne_nil hne
  rfl

theorem segments_joinSegments {names : List (List Char)} (hne : names ≠ [])
    (hnames : ∀ name ∈ names, '/' ∉ name) : segments (joinSegments names) = names := by
  induction names with
  | nil => exact absurd rfl hne
  | cons name names ih =>
    obtain ⟨hname, hrest⟩ := List.forall_mem_cons.1 hnames
    by_cases hlast : names = []
    · subst hlast
      exact segments_of_slash_notMem hname
    · rw [joinSegments_cons name hlast, segments_append_slash, segments_of_slash_notMem hname,
        ih hlast hrest, List.singleton_append]

theorem segments_rooted {names : List (List Char)} (hne : names ≠ [])
    (hnames : ∀ name ∈ names, IsName name) :
    segments ('/' :: joinSegments names) = [] :: names := by
  rw [segments, if_pos rfl,
    segments_joinSegments hne fun name hname => (hnames name hname).slash_notMem]

theorem isCanonical_joinSegments {names : List (List Char)}
    (hnames : ∀ name ∈ names, IsName name) : IsCanonical ('/' :: joinSegments names) := by
  by_cases hne : names = []
  · subst hne
    exact ⟨rfl, absurd rfl, absurd rfl⟩
  · have hsegments := segments_rooted hne hnames
    refine ⟨rfl, fun _ => by rwa [hsegments], fun _ hlast => ?_⟩
    -- behind a slash at the end stands an empty segment, which is no name
    obtain ⟨front, hfront⟩ := List.getLast?_eq_some_iff.1 hlast
    rw [hfront, segments_append_slash] at hsegments
    have hempty := congrArg List.getLast? hsegments
    rw [segments, List.getLast?_concat, List.getLast?_cons_of_ne_nil hne] at hempty
    exact (hnames [] (List.mem_of_getLast? hempty.symm)).ne_nil rfl

/-! ## Resolving -/

theorem join_eq_nil_iff {base path : List Char} : join base path = [] ↔ base = [] ∧ path = [] := by
  unfold join
  split_ifs with habsolute hbase
  · simp [ne_nil_of_isAbsolute habsolute]
  · exact List.append_eq_nil_iff
  · simp [(not_or.1 hbase).1]

theorem isAbsolute_join {base path : List Char} (h : isAbsolute base = true) :
    isAbsolute (join base path) = true := by
  have hne := ne_nil_of_isAbsolute h
  unfold join
  split_ifs with habsolute
  · exact habsolute
  · rw [isAbsolute_append hne, h]
  · rw [isAbsolute_append hne, h]

theorem resolve_eq {workingDirectory base path : String}
    (habsolute : isAbsolute workingDirectory.toList = true) (hgiven : base ≠ "" ∨ path ≠ "") :
    resolve workingDirectory base path =
      String.ofList ('/' :: joinSegments (reduce
        (segments (join workingDirectory.toList (join base.toList path.toList))))) := by
  have hjoined : join base.toList path.toList ≠ [] := by
    rw [Ne, join_eq_nil_iff, String.toList_eq_nil_iff, String.toList_eq_nil_iff, not_and_or]
    exact hgiven
  unfold resolve
  dsimp only
  rw [if_neg hjoined, normalize_eq (isAbsolute_join habsolute)]

/-- **A path resolves to what its segments reduce to**, seen from the base directory and this from
the working directory, and the result is in its one form. -/
theorem resolve_reduces {workingDirectory base path : String}
    (habsolute : isAbsolute workingDirectory.toList = true) (hgiven : base ≠ "" ∨ path ≠ "") :
    resolve workingDirectory base path =
      String.ofList ('/' :: joinSegments (reduce
        (segments (join workingDirectory.toList (join base.toList path.toList))))) ∧
    IsCanonical (resolve workingDirectory base path).toList := by
  have hresolve := resolve_eq habsolute hgiven
  refine ⟨hresolve, ?_⟩
  rw [hresolve, String.toList_ofList]
  exact isCanonical_joinSegments fun name hname => isName_of_mem_reduce hname

/-- A working directory with two slashes, a base with a dot in front, and more ways up than down. -/
theorem resolve_reduces_above_root :
    isAbsolute "//srv//site".toList = true ∧ "./pages/" ≠ "" ∧
    resolve "//srv//site" "./pages/" "..//../../../cards/./a.twig/" = "/cards/a.twig" ∧
    IsCanonical "/cards/a.twig".toList := by
  have habsolute : isAbsolute "//srv//site".toList = true := by decide
  have hgiven : "./pages/" ≠ "" ∨ "..//../../../cards/./a.twig/" ≠ "" := .inl (by decide)
  obtain ⟨hresolve, hcanonical⟩ := resolve_reduces habsolute hgiven
  have hpath : resolve "//srv//site" "./pages/" "..//../../../cards/./a.twig/" =
      "/cards/a.twig" := by
    rw [hresolve]
    decide
  rw [hpath] at hcanonical
  exact ⟨habsolute, by decide, hpath, hcanonical⟩

end TemplateBundler.Path
