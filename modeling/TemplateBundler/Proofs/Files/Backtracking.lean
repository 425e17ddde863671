import Mathlib.Data.Finset.Card
import Mathlib.Data.List.Permutation
import TemplateBundler.Proofs.Files.Discovery

/-!
# Backtracking: the directories that are marked while a tree is searched

The search marks a directory when it goes into it and takes the mark away when it comes back, with or
without a failure. Through links there are infinitely many paths below a root; what ends the search is
that the marks are those of the directories on the way down, and that these are all different.

* `FileTree.enterDirectory`: the search with its marks, and with a record of each call that it makes;
* `FileTree.readEntry_cases`, `FileTree.readEntries_cons`, `FileTree.enterDirectory_cases`: what one
  entry, one more entry, and one call can do;
* `FileTree.enterDirectory_restores`: a call leaves the marks as they were;
* `FileTree.enterDirectory_isSome`: how many calls are open at once;
* `FileTree.enterDirectory_exact`: the marks at each call;
* `FileTree.enterDirectory_agrees`: the search finds what `FileTree.collect` does;
* `FileTree.search_backtracks`: all this for the search from a root.
-/

namespace TemplateBundler.FileTree

/-! ## The search with its marks -/

/-- What a directory gives when it is read: names, and `none` where reading it fails. -/
abbrev Reading := (path : String) → (directory : Location) → List (Option (List Char))

def Listing.reading (listing : Listing) : Reading :=
  fun path directory => (listing path directory).map some

/-- A call that has come back: its path, the paths of the calls that were open around it, the innermost
first, and the directories that were marked when it started and when it came back. -/
structure Call where
  path : String
  above : List String
  before : Finset Location
  after : Finset Location

/-- Where a search stands. -/
structure Search where
  files : List String := []
  ancestors : Finset Location := ∅
  calls : List Call := []

namespace Search

def mark (search : Search) (location : Location) : Search :=
  { search with ancestors := insert location search.ancestors }

def unmark (search : Search) (location : Location) : Search :=
  { search with ancestors := search.ancestors.erase location }

def add (search : Search) (path : String) : Search :=
  { search with files := search.files ++ if isTemplate path then [path] else [] }

/-- The search with the record of a call that started as `start` and comes back now. -/
def record (search start : Search) (above : List String) (path : String) : Search :=
  { search with calls := search.calls ++ [⟨path, above, start.ancestors, search.ancestors⟩] }

end Search

abbrev Ending := Except Failure Unit × Search

def readEntry (tree : FileTree) (enter : String → Search → Option Ending) (path : String)
    (search : Search) : Option (List Char) → Option Ending
  | none => some (.error .unreadableFile, search)
  | some name =>
    match tree.directory? (child path name) with
    | some _ => enter (child path name) search
    | none => some (.ok (), search.add (child path name))

def readEntries (tree : FileTree) (enter : String → Search → Option Ending) (path : String) :
    List (Option (List Char)) → Search → Option Ending
  | [], search => some (.ok (), search)
  | entry :: rest, search =>
    match tree.readEntry enter path search entry with
    | some (.ok (), search) => tree.readEntries enter path rest search
    | ending => ending

/-- The search below a path, while the calls for the paths `above` are open. It is `none` if more than
`depth` further calls would have to be open at once. -/
def enterDirectory (tree : FileTree) (reading : Reading) :
    (depth : Nat) → (above : List String) → (path : String) → Search → Option Ending
  | 0, _, _, _ => none
  | depth + 1, above, path, search =>
    let ending? : Option Ending :=
      match tree.directory? path with
      | none => some (.ok (), search)
      | some location =>
        if location ∈ search.ancestors then some (.error (.linkCycle path), search)
        else
          (tree.readEntries (tree.enterDirectory reading depth (path :: above)) path
            (reading path location) (search.mark location)).map fun ending =>
              (ending.1, ending.2.unmark location)
    ending?.map fun ending => (ending.1, ending.2.record search above path)

variable {tree : FileTree} {reading : Reading} {enter : String → Search → Option Ending}
  {depth : Nat} {above : List String} {path root : String} {names : List (Option (List Char))}
  {outcome : Except Failure Unit} {search search' : Search}

/-! ## What a step can do -/

theorem readEntry_cases {entry : Option (List Char)}
    (h : tree.readEntry enter path search entry = some (outcome, search')) :
    (entry = none ∧ outcome = .error .unreadableFile ∧ search' = search) ∨
    (∃ name location, entry = some name ∧ tree.directory? (child path name) = some location ∧
      enter (child path name) search = some (outcome, search')) ∨
    (∃ name, entry = some name ∧ tree.directory? (child path name) = none ∧ outcome = .ok () ∧
      search' = search.add (child path name)) := by
  cases entry with
  | none =>
    cases h
    exact .inl ⟨rfl, rfl, rfl⟩
  | some name =>
    rw [readEntry] at h
    cases hd : tree.directory? (child path name) with
    | some location =>
      rw [hd] at h
      exact .inr (.inl ⟨name, location, rfl, hd, h⟩)
    | none =>
      rw [hd] at h
      cases h
      exact .inr (.inr ⟨name, rfl, hd, rfl, rfl⟩)

theorem readEntries_cons {entry : Option (List Char)} :
    tree.readEntries enter path (entry :: names) search = some (outcome, search') ↔
      (∃ inner, tree.readEntry enter path search entry = some (.ok (), inner) ∧
        tree.readEntries enter path names inner = some (outcome, search')) ∨
      ∃ failure, outcome = .error failure ∧
        tree.readEntry enter path search entry = some (.error failure, search') := by
  rw [readEntries]
  rcases tree.readEntry enter path search entry with _ | ⟨_ | _, inner⟩
  · simp
  · simp [eq_comm]
  · simp

theorem enterDirectory_cases
    (h : tree.enterDirectory reading (depth + 1) above path search = some (outcome, search')) :
    ∃ inner, search' = inner.record search above path ∧
      ((tree.directory? path = none ∧ outcome = .ok () ∧ inner = search) ∨
      ∃ location, tree.directory? path = some location ∧
        ((location ∈ search.ancestors ∧ outcome = .error (.linkCycle path) ∧ inner = search) ∨
        (location ∉ search.ancestors ∧ ∃ last,
          tree.readEntries (tree.enterDirectory reading depth (path :: above)) path
            (reading path location) (search.mark location) = some (outcome, last) ∧
          inner = last.unmark location))) := by
  rw [enterDirectory] at h
  obtain ⟨⟨outcome', inner⟩, hinner, heq⟩ := Option.map_eq_some_iff.1 h
  cases heq
  refine ⟨inner, rfl, ?_⟩
  cases hd : tree.directory? path with
  | none =>
    rw [hd] at hinner
    cases hinner
    exact .inl ⟨rfl, rfl, rfl⟩
  | some location =>
    rw [hd] at hinner
    refine .inr ⟨location, rfl, ?_⟩
    by_cases hmem : location ∈ search.ancestors
    · simp only [hmem, if_true, Option.some.injEq, Prod.mk.injEq] at hinner
      exact .inl ⟨hmem, hinner.1.symm, hinner.2.symm⟩
    · simp only [hmem, if_false, Option.map_eq_some_iff, Prod.mk.injEq] at hinner
      obtain ⟨⟨_, last⟩, hlast, rfl, rfl⟩ := hinner
      exact .inr ⟨hmem, last, hlast, rfl⟩

/-- What holds of a search is kept while entries are read if it is kept by the calls for those that are
directories. -/
theorem readEntries_keeps {P : Search → Prop} (hadd : ∀ path search, P search → P (search.add path))
    (henter : ∀ name location search outcome search', some name ∈ names →
      tree.directory? (child path name) = some location → P search →
      enter (child path name) search = some (outcome, search') → P search')
    (h : tree.readEntries enter path names search = some (outcome, search')) (hP : P search) :
    P search' := by
  induction names generalizing search with
  | nil =>
    cases h
    exact hP
  | cons entry names ih =>
    have hentry : ∀ {outcome search'},
        tree.readEntry enter path search entry = some (outcome, search') → P search' := by
      intro outcome search' hread
      obtain ⟨-, -, rfl⟩ | ⟨name, location, rfl, hd, hread⟩ | ⟨name, rfl, -, -, rfl⟩ :=
        readEntry_cases hread
      · exact hP
      · exact henter name location _ _ _ (by simp) hd hP hread
      · exact hadd _ _ hP
    obtain ⟨inner, hfirst, hrest⟩ | ⟨failure, rfl, hfirst⟩ := readEntries_cons.1 h
    · apply ih _ hrest (hentry hfirst)
      intro name location search outcome search' hname
      exact henter name location search outcome search' (List.mem_cons_of_mem entry hname)
    · exact hentry hfirst

/-! ## The marks after a call -/

/-- The call leaves the marks as they were, however it ends. -/
def Restores (enter : String → Search → Option Ending) : Prop :=
  ∀ ⦃path search outcome search'⦄, enter path search = some (outcome, search') →
    search'.ancestors = search.ancestors

theorem Restores.readEntry (henter : Restores enter) {entry : Option (List Char)}
    (h : tree.readEntry enter path search entry = some (outcome, search')) :
    search'.ancestors = search.ancestors := by
  obtain ⟨-, -, rfl⟩ | ⟨_, _, -, -, hread⟩ | ⟨_, -, -, -, rfl⟩ := readEntry_cases h
  · rfl
  · exact henter hread
  · rfl

theorem enterDirectory_restores (depth : Nat) (above : List String) :
    Restores (tree.enterDirectory reading depth above) := by
  intro path search outcome search' h
  induction depth generalizing above path search outcome search' with
  | zero => cases h
  | succ depth ih =>
    obtain ⟨inner, rfl, ⟨-, -, rfl⟩ | ⟨location, -, hcase⟩⟩ := enterDirectory_cases h
    · rfl
    obtain ⟨-, -, rfl⟩ | ⟨hnew, last, hlast, rfl⟩ := hcase
    · rfl
    have hmarks : last.ancestors = (search.mark location).ancestors := by
      refine readEntries_keeps (P := fun s => s.ancestors = (search.mark location).ancestors)
        ?_ ?_ hlast rfl
      · intro path s hs
        exact hs
      · intro name there s outcome s' _ _ hs hread
        rw [ih _ hread, hs]
    -- the mark that is taken away is the one that was set, since there was none before
    show last.ancestors.erase location = search.ancestors
    rw [hmarks]
    exact Finset.erase_insert hnew

/-- A call that comes back is recorded, after the calls that it has made. -/
theorem enterDirectory_calls
    (h : tree.enterDirectory reading depth above path search = some (outcome, search')) :
    ∃ made, search'.calls = made ++ [⟨path, above, search.ancestors, search.ancestors⟩] := by
  have hrestored := enterDirectory_restores _ _ h
  cases depth with
  | zero => cases h
  | succ depth =>
    obtain ⟨inner, rfl, -⟩ := enterDirectory_cases h
    have hinner : inner.ancestors = search.ancestors := hrestored
    exact ⟨inner.calls, by rw [Search.record, hinner]⟩

/-! ## How deep the calls are nested -/

def unmarked (tree : FileTree) (ancestors : Finset Location) : Finset Location :=
  tree.directories.toFinset \ ancestors

theorem card_unmarked_insert_lt {ancestors : Finset Location} {location : Location}
    (hd : tree.directory? path = some location) (hnew : location ∉ ancestors) :
    (tree.unmarked (insert location ancestors)).card < (tree.unmarked ancestors).card := by
  have hmem : location ∈ tree.unmarked ancestors :=
    Finset.mem_sdiff.2 ⟨List.mem_toFinset.2 (mem_directories_of_directory? hd), hnew⟩
  rw [unmarked, Finset.sdiff_insert]
  exact Finset.card_erase_lt_of_mem hmem

theorem readEntries_isSome (hrestores : Restores enter)
    (henter : ∀ path inner, inner.ancestors = search.ancestors → (enter path inner).isSome) :
    (tree.readEntries enter path names search).isSome := by
  induction names generalizing search with
  | nil => rfl
  | cons entry names ih =>
    have hfirst : (tree.readEntry enter path search entry).isSome := by
      cases entry with
      | none => rfl
      | some name =>
        rw [readEntry]
        split
        · exact henter _ _ rfl
        · rfl
    obtain ⟨⟨outcome, inner⟩, hinner⟩ := Option.isSome_iff_exists.1 hfirst
    rw [readEntries, hinner]
    cases outcome with
    | error failure => rfl
    | ok _ =>
      apply ih
      rwa [hrestores.readEntry hinner]

/-- Each open call but the last marks a directory that was not marked. -/
theorem enterDirectory_isSome (h : (tree.unmarked search.ancestors).card < depth) :
    (tree.enterDirectory reading depth above path search).isSome := by
  induction depth generalizing above path search with
  | zero => omega
  | succ depth ih =>
    rw [enterDirectory, Option.isSome_map]
    cases hd : tree.directory? path with
    | none => rfl
    | some location =>
      by_cases hmem : location ∈ search.ancestors
      · simp only [hmem, if_true, Option.isSome_some]
      · simp only [hmem, if_false, Option.isSome_map]
        have hfewer := card_unmarked_insert_lt hd hmem
        -- one directory less is unmarked for all entries, since each of them restores the marks
        apply readEntries_isSome (enterDirectory_restores depth (path :: above))
        intro inner s hs
        apply ih
        rw [hs]
        show (tree.unmarked (insert location search.ancestors)).card < depth
        omega

theorem readEntries_mono {enter' : String → Search → Option Ending} {ending : Ending}
    (henter : ∀ path search ending, enter path search = some ending →
      enter' path search = some ending)
    (h : tree.readEntries enter path names search = some ending) :
    tree.readEntries enter' path names search = some ending := by
  induction names generalizing search with
  | nil => exact h
  | cons entry names ih =>
    have hentry : ∀ {first}, tree.readEntry enter path search entry = some first →
        tree.readEntry enter' path search entry = some first := by
      intro first hread
      cases entry with
      | none => exact hread
      | some name =>
        rw [readEntry] at hread ⊢
        split at hread
        · exact henter _ _ _ hread
        · exact hread
    obtain ⟨outcome, search'⟩ := ending
    rw [readEntries_cons] at h ⊢
    obtain ⟨inner, hfirst, hrest⟩ | ⟨failure, rfl, hfirst⟩ := h
    · exact .inl ⟨inner, hentry hfirst, ih hrest⟩
    · exact .inr ⟨failure, rfl, hentry hfirst⟩

theorem enterDirectory_succ {ending : Ending}
    (h : tree.enterDirectory reading depth above path search = some ending) :
    tree.enterDirectory reading (depth + 1) above path search = some ending := by
  induction depth generalizing above path search ending with
  | zero => cases h
  | succ depth ih =>
    rw [enterDirectory, Option.map_eq_some_iff] at h ⊢
    obtain ⟨inner, hinner, hending⟩ := h
    refine ⟨inner, ?_, hending⟩
    cases hd : tree.directory? path with
    | none =>
      rw [hd] at hinner
      exact hinner
    | some location =>
      rw [hd] at hinner
      by_cases hmem : location ∈ search.ancestors
      · simp only [hmem, if_true] at hinner ⊢
        exact hinner
      · simp only [hmem, if_false, Option.map_eq_some_iff] at hinner ⊢
        obtain ⟨last, hlast, hinner⟩ := hinner
        exact ⟨last, readEntries_mono (fun _ _ _ => ih) hlast, hinner⟩

theorem enterDirectory_mono {ending : Ending} {more : Nat} (hle : depth ≤ more)
    (h : tree.enterDirectory reading depth above path search = some ending) :
    tree.enterDirectory reading more above path search = some ending := by
  induction hle with
  | refl => exact h
  | step _ ih => exact enterDirectory_succ ih

/-! ## The marks at a call -/

/-- The paths from the root down to an entry, the innermost first: each is that of an entry that the
directory before it gives. -/
inductive Way (tree : FileTree) (reading : Reading) (root : String) : List String → Prop where
  | root : Way tree reading root [root]
  | entry {path : String} {above : List String} {location : Location} {name : List Char} :
    Way tree reading root (path :: above) → tree.directory? path = some location →
    some name ∈ reading path location → Way tree reading root (child path name :: path :: above)

/-- The marks are those of the directories that the paths lead to, and these are all different. -/
def Marks (tree : FileTree) (paths : List String) (ancestors : Finset Location) : Prop :=
  ∃ locations : List Location, paths.map tree.directory? = locations.map some ∧
    locations.Nodup ∧ locations.toFinset = ancestors

/-- When the call starts, the directories on the way to it are marked and no others, and when it comes
back, the same are. -/
structure Call.Exact (tree : FileTree) (reading : Reading) (root : String) (call : Call) : Prop where
  way : tree.Way reading root (call.path :: call.above)
  marks : tree.Marks call.above call.before
  after : call.after = call.before

theorem Marks.nil : tree.Marks [] ∅ := ⟨[], rfl, List.nodup_nil, rfl⟩

theorem Marks.cons {ancestors : Finset Location} {location : Location}
    (h : tree.Marks above ancestors) (hd : tree.directory? path = some location)
    (hnew : location ∉ ancestors) : tree.Marks (path :: above) (insert location ancestors) := by
  obtain ⟨locations, hmap, hnodup, rfl⟩ := h
  rw [List.mem_toFinset] at hnew
  exact ⟨location :: locations, by simp [hd, hmap], List.nodup_cons.2 ⟨hnew, hnodup⟩, by simp⟩

theorem Marks.length_le {ancestors : Finset Location} (h : tree.Marks above ancestors) :
    above.length ≤ tree.directories.toFinset.card := by
  obtain ⟨locations, hmap, hnodup, -⟩ := h
  have hlength : above.length = locations.length := by
    simpa using congrArg List.length hmap
  have hsub : locations.toFinset ⊆ tree.directories.toFinset := by
    intro location hmem
    have hsome : some location ∈ above.map tree.directory? := by
      rw [hmap]
      exact List.mem_map_of_mem (List.mem_toFinset.1 hmem)
    obtain ⟨path, -, hd⟩ := List.mem_map.1 hsome
    exact List.mem_toFinset.2 (mem_directories_of_directory? hd)
  calc above.length = locations.toFinset.card := by rw [hlength, List.toFinset_card_of_nodup hnodup]
    _ ≤ tree.directories.toFinset.card := Finset.card_le_card hsub

theorem enterDirectory_exact (hway : tree.Way reading root (path :: above))
    (hmarks : tree.Marks above search.ancestors)
    (hcalls : ∀ call ∈ search.calls, call.Exact tree reading root)
    (h : tree.enterDirectory reading depth above path search = some (outcome, search')) :
    ∀ call ∈ search'.calls, call.Exact tree reading root := by
  induction depth generalizing above path search outcome search' with
  | zero => cases h
  | succ depth ih =>
    have hafter := enterDirectory_restores _ _ h
    obtain ⟨inner, rfl, hcase⟩ := enterDirectory_cases h
    have hinner : ∀ call ∈ inner.calls, call.Exact tree reading root := by
      obtain ⟨-, -, rfl⟩ | ⟨location, hd, ⟨-, -, rfl⟩ | ⟨hnew, last, hlast, rfl⟩⟩ := hcase
      · exact hcalls
      · exact hcalls
      · -- between two entries the marks are those that the first entry met, so each entry starts with
        -- the marks of the same directories
        have hkept := readEntries_keeps
          (P := fun s => s.ancestors = (search.mark location).ancestors ∧
            ∀ call ∈ s.calls, call.Exact tree reading root) ?_ ?_ hlast ⟨rfl, hcalls⟩
        · exact hkept.2
        · intro path s hs
          exact hs
        · intro name there s outcome s' hname _ hs hread
          refine ⟨(enterDirectory_restores _ _ hread).trans hs.1, ?_⟩
          apply ih (hway.entry hd hname) _ hs.2 hread
          rw [hs.1]
          exact hmarks.cons hd hnew
    intro call hcall
    rcases List.mem_append.1 hcall with hold | hlast
    · exact hinner call hold
    · obtain rfl := List.mem_singleton.1 hlast
      exact ⟨hway, hmarks, hafter⟩

/-! ## What is found -/

section Found

variable {listing : Listing} {visited : List Location}

theorem readEntries_agrees {names : List (List Char)}
    (hrestores : Restores enter)
    (henter : ∀ name location search outcome search',
      tree.directory? (child path name) = some location →
      (∀ other, other ∈ search.ancestors ↔ other ∈ visited) →
      enter (child path name) search = some (outcome, search') →
      (outcome.map fun _ => search'.files) =
        (tree.visit listing visited path name).map (search.files ++ ·))
    (hv : ∀ other, other ∈ search.ancestors ↔ other ∈ visited)
    (h : tree.readEntries enter path (names.map some) search = some (outcome, search')) :
    (outcome.map fun _ => search'.files) =
      (tree.collect listing visited path names).map (search.files ++ ·) := by
  induction names generalizing search with
  | nil =>
    cases h
    rw [collect_nil, Except.map, Except.map, List.append_nil]
  | cons name names ih =>
    have hentry : ∀ {outcome inner},
        tree.readEntry enter path search (some name) = some (outcome, inner) →
        (outcome.map fun _ => inner.files) =
          (tree.visit listing visited path name).map (search.files ++ ·) := by
      intro outcome inner hread
      obtain ⟨heq, -⟩ | ⟨_, location, heq, hd, hread⟩ | ⟨_, heq, hd, rfl, rfl⟩ :=
        readEntry_cases hread
      · cases heq
      · cases heq
        exact henter name location _ _ _ hd hv hread
      · cases heq
        rw [visit, hd]
        rfl
    rw [collect_cons]
    rw [List.map_cons] at h
    obtain ⟨inner, hfirst, hrest⟩ | ⟨failure, rfl, hfirst⟩ := readEntries_cons.1 h
    · -- what the first entry has added stands before what the others add
      have hfound := hentry hfirst
      have hnext := ih (by rwa [hrestores.readEntry hfirst]) hrest
      cases hvisit : tree.visit listing visited path name with
      | error failure => rw [hvisit] at hfound; cases hfound
      | ok found =>
        rw [hvisit, Except.map, Except.map, Except.ok.injEq] at hfound
        rw [hnext, hfound, Except.bind]
        cases tree.collect listing visited path names with
        | error failure => rfl
        | ok rest => simp only [Except.map, List.append_assoc]
    · have hfound := hentry hfirst
      cases hvisit : tree.visit listing visited path name with
      | error failure' => rw [hvisit] at hfound; cases hfound; rfl
      | ok found => rw [hvisit] at hfound; cases hfound

theorem enterDirectory_agrees {location : Location} (hd : tree.directory? path = some location)
    (hv : ∀ other, other ∈ search.ancestors ↔ other ∈ visited)
    (h : tree.enterDirectory listing.reading depth above path search = some (outcome, search')) :
    (outcome.map fun _ => search'.files) =
      (if location ∈ visited then .error (.linkCycle path)
        else tree.collect listing (location :: visited) path (listing path location)).map
          (search.files ++ ·) := by
  induction depth generalizing above path search outcome search' location visited with
  | zero => cases h
  | succ depth ih =>
    obtain ⟨inner, rfl, ⟨hnone, -⟩ | ⟨there, hsome, hcase⟩⟩ := enterDirectory_cases h
    · rw [hd] at hnone
      cases hnone
    rw [hd] at hsome
    cases hsome
    obtain ⟨hmem, rfl, rfl⟩ | ⟨hnew, last, hlast, rfl⟩ := hcase
    · rw [if_pos ((hv location).1 hmem)]
      rfl
    rw [if_neg fun hmem => hnew ((hv location).2 hmem)]
    have hmarked : ∀ other,
        other ∈ (search.mark location).ancestors ↔ other ∈ location :: visited := by
      intro other
      show other ∈ insert location search.ancestors ↔ other ∈ location :: visited
      rw [Finset.mem_insert, List.mem_cons, hv]
    have hfound : (outcome.map fun _ => last.files) =
        (tree.collect listing (location :: visited) path (listing path location)).map
          ((search.mark location).files ++ ·) := by
      refine readEntries_agrees (enterDirectory_restores depth (path :: above)) ?_ hmarked hlast
      intro name there s outcome s' hd' hs hread
      rw [visit, hd']
      exact ih hd' hs hread
    exact hfound

/-- The search finds what is found without marks. -/
theorem discoverBy_eq_of_enterDirectory
    (h : tree.enterDirectory listing.reading depth [] root {} = some (outcome, search)) :
    tree.discoverBy listing root =
      outcome.map fun _ => dropRepeats (search.files.mergeSort Path.le) := by
  rw [discoverBy]
  cases hd : tree.directory? root with
  | none =>
    cases depth with
    | zero => cases h
    | succ depth =>
      obtain ⟨_, rfl, ⟨-, rfl, rfl⟩ | ⟨_, hsome, -⟩⟩ := enterDirectory_cases h
      · show Except.ok [] = Except.ok (dropRepeats (List.mergeSort [] Path.le))
        rw [List.mergeSort_nil, dropRepeats]
        simp
      · rw [hd] at hsome
        cases hsome
  | some location =>
    have hv : ∀ other, other ∈ ({} : Search).ancestors ↔ other ∈ ([] : List Location) := by simp
    have hfound := enterDirectory_agrees hd hv h
    rw [if_neg List.not_mem_nil] at hfound
    show (tree.collect listing [location] root (listing root location)).map _ = _
    cases hcollect : tree.collect listing [location] root (listing root location) with
    | error failure =>
      rw [hcollect] at hfound
      cases outcome with
      | error failure' => cases hfound; rfl
      | ok _ => cases hfound
    | ok found =>
      rw [hcollect] at hfound
      cases outcome with
      | error failure => cases hfound
      | ok _ => cases hfound; rfl

end Found

/-! ## The search from a root -/

/-- **The search ends, and its marks are exact.** Below any root, whatever links there are and wherever
reading a directory fails, the search comes to one ending if as many calls may be open at once as there
are directories and one more. At each call the directories on the way to it are marked and no others,
each is on the way once, and when the call comes back, with or without a failure, the same are marked.
The last call to come back is the one for the root. Where reading does not fail, the ending is that of
discovery. -/
theorem search_backtracks (tree : FileTree) (reading : Reading) (root : String) :
    ∃ outcome search,
      (∀ depth, tree.directories.toFinset.card + 1 ≤ depth →
        tree.enterDirectory reading depth [] root {} = some (outcome, search)) ∧
      search.ancestors = ∅ ∧
      (∃ made, search.calls = made ++ [⟨root, [], ∅, ∅⟩]) ∧
      (∀ call ∈ search.calls, call.Exact tree reading root ∧
        call.above.length + 1 ≤ tree.directories.toFinset.card + 1) ∧
      (∀ listing : Listing, reading = listing.reading →
        tree.discoverBy listing root =
          outcome.map fun _ => dropRepeats (search.files.mergeSort Path.le)) := by
  have hsome :
      (tree.enterDirectory reading (tree.directories.toFinset.card + 1) [] root {}).isSome := by
    apply enterDirectory_isSome
    rw [unmarked, Finset.sdiff_empty]
    exact Nat.lt_succ_self _
  obtain ⟨⟨outcome, search⟩, hending⟩ := Option.isSome_iff_exists.1 hsome
  have hexact := enterDirectory_exact .root .nil (by simp) hending
  refine ⟨outcome, search, ?_, enterDirectory_restores _ _ hending, ?_, ?_, ?_⟩
  · intro depth hdepth
    exact enterDirectory_mono hdepth hending
  · exact enterDirectory_calls hending
  · intro call hcall
    exact ⟨hexact call hcall, Nat.succ_le_succ (hexact call hcall).marks.length_le⟩
  · rintro listing rfl
    exact discoverBy_eq_of_enterDirectory hending

/-! ### A link to the directory above -/

def loopTree : FileTree := ({} : FileTree).link "r/up" "/"

def loopListing : Listing := fun _ directory => loopTree.entryNames directory

/-- The link is a cycle. When it is met, a call is open for each directory and one for the link, so the
bound on the calls is attained. -/
theorem search_backtracks_loopTree :
    loopTree.enterDirectory loopListing.reading 2 [] "/" {} = none ∧
    loopTree.discoverBy loopListing "/" = .error (.linkCycle "/r/up") ∧
    ∃ search, (∀ depth, 3 ≤ depth → loopTree.enterDirectory loopListing.reading depth [] "/" {} =
        some (.error (.linkCycle "/r/up"), search)) ∧
      search.ancestors = ∅ ∧ search.calls.map Call.path = ["/r/up", "/r", "/"] ∧
      ∀ call ∈ search.calls, call.Exact loopTree loopListing.reading "/" := by
  have hcard : loopTree.directories.toFinset.card + 1 = 3 := by decide
  have hroot : loopTree.directory? "/" = some [] := by cbv
  have hdirectory : loopTree.directory? "/r" = some [['r']] := by cbv
  have hlink : loopTree.directory? "/r/up" = some [] := by cbv
  have houter : loopListing.reading "/" [] = [some ['r']] := by cbv
  have hinner : loopListing.reading "/r" [['r']] = [some ['u', 'p']] := by cbv
  have hchild : child "/" ['r'] = "/r" ∧ child "/r" ['u', 'p'] = "/r/up" := by decide
  have htwo : loopTree.enterDirectory loopListing.reading 2 [] "/" {} = none := by
    simp [enterDirectory, readEntries, readEntry, Search.mark, hroot, hdirectory, hlink, houter,
      hinner, hchild]
  have hthree : (loopTree.enterDirectory loopListing.reading 3 [] "/" {}).map
      (fun ending => (ending.1, ending.2.calls.map Call.path)) =
        some (.error (.linkCycle "/r/up"), ["/r/up", "/r", "/"]) := by
    simp [enterDirectory, readEntries, readEntry, Search.mark, Search.unmark, Search.record, hroot,
      hdirectory, hlink, houter, hinner, hchild]
  obtain ⟨outcome, search, hends, hancestors, -, hcalls, hfound⟩ :=
    search_backtracks loopTree loopListing.reading "/"
  rw [hcard] at hends
  rw [hends 3 le_rfl, Option.map_some, Option.some.injEq, Prod.mk.injEq] at hthree
  obtain ⟨rfl, hpaths⟩ := hthree
  refine ⟨htwo, hfound loopListing rfl, search, hends, hancestors, hpaths, ?_⟩
  intro call hcall
  exact (hcalls call hcall).1

end TemplateBundler.FileTree
