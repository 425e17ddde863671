import TemplateBundler.Proofs.Path.Reduction

/-!
# Composition: paths seen from paths

A path seen from a directory that is itself seen from another one can be resolved in two steps or in
one. Both give the same path: joining is associative, and the names that the first part leads
through are all that the second part is followed from.
-/

namespace TemplateBundler.Path

/-! ## Joining -/

theorem join_of_absolute {path : List Char} (h : isAbsolute path = true) (base : List Char) :
    join base path = path := by
  rw [join, if_pos h]

@[simp]
theorem join_nil_left (path : List Char) : join [] path = path := by
  simp [join]

theorem ne_empty_of_isAbsolute {path : String} (h : isAbsolute path.toList = true) :
    path ≠ "" := by
  rw [Ne, ← String.toList_eq_nil_iff]
  exact ne_nil_of_isAbsolute h

theorem isAbsolute_join_relative {base path : List Char} (hbase : isAbsolute base = false)
    (hpath : isAbsolute path = false) : isAbsolute (join base path) = false := by
  by_cases hne : base = []
  · subst hne
    rwa [join_nil_left]
  · unfold join
    rw [hpath, if_neg Bool.false_ne_true]
    split_ifs <;> rw [isAbsolute_append hne, hbase]

/-- The text that a relative path is written behind: the base, with a slash at its end. -/
def slashed (base : List Char) : List Char :=
  if base = [] ∨ base.getLast? = some '/' then base else base ++ ['/']

theorem join_eq_slashed {path : List Char} (h : isAbsolute path = false) (base : List Char) :
    join base path = slashed base ++ path := by
  unfold join slashed
  rw [h, if_neg Bool.false_ne_true]
  split_ifs <;> simp

/-- Only the last text decides about the slash, unless it is empty: then the one before it has its
slash already. -/
theorem slashed_append (base path : List Char) :
    slashed (slashed base ++ path) = slashed base ++ slashed path := by
  by_cases hpath : path = []
  · subst hpath
    unfold slashed
    split_ifs <;> simp_all
  · have hlast : (slashed base ++ path).getLast? = path.getLast? :=
      List.getLast?_append_of_ne_nil _ hpath
    rw [slashed, slashed.eq_def path, hlast]
    simp only [List.append_eq_nil_iff, hpath, and_false, false_or]
    split_ifs <;> simp

theorem join_assoc (base first second : List Char) :
    join (join base first) second = join base (join first second) := by
  cases hsecond : isAbsolute second with
  | true => simp only [join_of_absolute hsecond]
  | false =>
    cases hfirst : isAbsolute first with
    | true => rw [join_of_absolute hfirst, join_of_absolute (isAbsolute_join hfirst)]
    | false =>
      calc join (join base first) second
          = slashed (slashed base ++ first) ++ second := by
            rw [join_eq_slashed hsecond, join_eq_slashed hfirst]
        _ = slashed base ++ (slashed first ++ second) := by
            rw [slashed_append, List.append_assoc]
        _ = join base (join first second) := by
            have hjoined := isAbsolute_join_relative hfirst hsecond
            rw [join_eq_slashed hjoined, join_eq_slashed hsecond]

/-! ## Names of joined paths -/

theorem reduceStep_nil (names : List (List Char)) : reduceStep names [] = names := by
  simp [reduceStep]

/-- A relative path goes on from the names that its base leads through. -/
theorem reduce_join {base path : List Char} (hbase : base ≠ []) (hpath : isAbsolute path = false) :
    reduce (segments (join base path)) =
      (segments path).foldl reduceStep (reduce (segments base)) := by
  obtain ⟨front, hjoin, hfront⟩ := join_relative hbase hpath
  have hnames : reduce (segments base) = reduce (segments front) := by
    rcases hfront with rfl | rfl
    · rfl
    · -- a slash at the end of the base adds an empty segment
      rw [segments_append_slash, reduce, List.foldl_append]
      exact reduceStep_nil _
  rw [hjoin, segments_append_slash, hnames, reduce, reduce, List.foldl_append]

/-- What is seen from two paths is the same if they lead through the same names. -/
theorem reduce_join_congr {base base' : List Char} (hbase : base ≠ []) (hbase' : base' ≠ [])
    (h : reduce (segments base) = reduce (segments base')) (path : List Char) :
    reduce (segments (join base path)) = reduce (segments (join base' path)) := by
  cases hpath : isAbsolute path with
  | true => rw [join_of_absolute hpath, join_of_absolute hpath]
  | false => rw [reduce_join hbase hpath, reduce_join hbase' hpath, h]

theorem foldl_reduceStep_names {names : List (List Char)} (hnames : ∀ name ∈ names, IsName name)
    (before : List (List Char)) : names.foldl reduceStep before = before ++ names := by
  induction names generalizing before with
  | nil => simp
  | cons name names ih =>
    obtain ⟨hname, hrest⟩ := List.forall_mem_cons.1 hnames
    have hstep : reduceStep before name = before ++ [name] := by
      simp [reduceStep, hname.ne_nil, hname.ne_dot, hname.ne_dots]
    rw [List.foldl_cons, hstep, ih hrest, List.append_assoc, List.singleton_append]

theorem reduce_rooted {names : List (List Char)} (hnames : ∀ name ∈ names, IsName name) :
    reduce (segments ('/' :: joinSegments names)) = names := by
  by_cases hne : names = []
  · subst hne
    rfl
  · rw [segments_rooted hne hnames, reduce, List.foldl_cons, reduceStep_nil,
      foldl_reduceStep_names hnames, List.nil_append]

/-! ## Resolving in steps -/

section Absolute

variable {workingDirectory : String} (habsolute : isAbsolute workingDirectory.toList = true)

include habsolute

/-- A resolved path is absolute, and leads through the names of the path that was resolved. -/
theorem resolve_names {base path : String} (hgiven : base ≠ "" ∨ path ≠ "") :
    isAbsolute (resolve workingDirectory base path).toList = true ∧
    reduce (segments (resolve workingDirectory base path).toList) =
      reduce (segments (join workingDirectory.toList (join base.toList path.toList))) := by
  rw [resolve_eq habsolute hgiven, String.toList_ofList]
  exact ⟨rfl, reduce_rooted fun name hname => isName_of_mem_reduce hname⟩

/-- Two paths that lead through the same names are resolved alike. -/
theorem resolve_congr {base path base' path' : String} (hgiven : base ≠ "" ∨ path ≠ "")
    (hgiven' : base' ≠ "" ∨ path' ≠ "")
    (h : reduce (segments (join workingDirectory.toList (join base.toList path.toList))) =
      reduce (segments (join workingDirectory.toList (join base'.toList path'.toList)))) :
    resolve workingDirectory base path = resolve workingDirectory base' path' := by
  rw [resolve_eq habsolute hgiven, resolve_eq habsolute hgiven', h]

theorem resolve_resolve (base first second : String) :
    resolve workingDirectory (resolve workingDirectory base first) second =
      resolve workingDirectory base (String.ofList (join first.toList second.toList)) := by
  by_cases hgiven : base ≠ "" ∨ first ≠ ""
  · obtain ⟨hroot, hnames⟩ := resolve_names habsolute hgiven
    have hjoined : base ≠ "" ∨ String.ofList (join first.toList second.toList) ≠ "" := by
      refine hgiven.imp_right fun hfirst hempty => hfirst ?_
      rw [String.ofList_eq_empty_iff, join_eq_nil_iff, String.toList_eq_nil_iff] at hempty
      exact hempty.1
    refine resolve_congr habsolute (.inl (ne_empty_of_isAbsolute hroot)) hjoined ?_
    -- the first step ends in an absolute path, from which the working directory is not seen
    rw [String.toList_ofList, join_of_absolute (isAbsolute_join hroot), ← join_assoc base.toList,
      ← join_assoc workingDirectory.toList]
    exact reduce_join_congr (ne_nil_of_isAbsolute hroot)
      (ne_nil_of_isAbsolute (isAbsolute_join habsolute)) hnames _
  · obtain ⟨rfl, rfl⟩ : base = "" ∧ first = "" := by simpa using hgiven
    have hempty : resolve workingDirectory "" "" = "" := rfl
    rw [hempty, String.toList_empty, join_nil_left, String.ofList_toList]

theorem resolve_self (base path : String) :
    resolve workingDirectory base (resolve workingDirectory base path) =
      resolve workingDirectory base path := by
  by_cases hgiven : base ≠ "" ∨ path ≠ ""
  · obtain ⟨hroot, hnames⟩ := resolve_names habsolute hgiven
    refine resolve_congr habsolute (.inr (ne_empty_of_isAbsolute hroot)) hgiven ?_
    rw [join_of_absolute hroot, join_of_absolute hroot, hnames]
  · obtain ⟨rfl, rfl⟩ : base = "" ∧ path = "" := by simpa using hgiven
    rfl

theorem resolve_resolve_empty (base path : String) :
    resolve workingDirectory (resolve workingDirectory base path) "" =
      resolve workingDirectory base path := by
  by_cases hgiven : base ≠ "" ∨ path ≠ ""
  · obtain ⟨hroot, hnames⟩ := resolve_names habsolute hgiven
    refine resolve_congr habsolute (.inl (ne_empty_of_isAbsolute hroot)) hgiven ?_
    rw [join_of_absolute (isAbsolute_join hroot), String.toList_empty,
      reduce_join (ne_nil_of_isAbsolute hroot) rfl, hnames]
    exact reduceStep_nil _
  · obtain ⟨rfl, rfl⟩ : base = "" ∧ path = "" := by simpa using hgiven
    rfl

theorem resolve_workingDirectory {base path : String} (hgiven : base ≠ "" ∨ path ≠ "") :
    resolve workingDirectory base path =
      resolve workingDirectory workingDirectory
        (String.ofList (join base.toList path.toList)) := by
  refine resolve_congr habsolute hgiven (.inl (ne_empty_of_isAbsolute habsolute)) ?_
  rw [String.toList_ofList, join_of_absolute (isAbsolute_join habsolute)]

end Absolute

/-! ## Directories -/

/-- Two texts name the same directory: resolved, they are one path. -/
def SameDirectory (workingDirectory directory directory' : String) : Prop :=
  resolve workingDirectory directory "" = resolve workingDirectory directory' ""

instance (workingDirectory directory directory' : String) :
    Decidable (SameDirectory workingDirectory directory directory') :=
  inferInstanceAs (Decidable (_ = _))

theorem SameDirectory.resolve_eq {workingDirectory directory directory' : String}
    (habsolute : isAbsolute workingDirectory.toList = true)
    (h : SameDirectory workingDirectory directory directory') (path : String) :
    resolve workingDirectory directory path = resolve workingDirectory directory' path := by
  have hsteps : ∀ base, resolve workingDirectory base path =
      resolve workingDirectory (resolve workingDirectory base "") path := by
    intro base
    rw [resolve_resolve habsolute, String.toList_empty, join_nil_left, String.ofList_toList]
  rw [hsteps directory, hsteps directory', h]

end TemplateBundler.Path
