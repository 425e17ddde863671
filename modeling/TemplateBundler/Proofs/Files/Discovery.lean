import Mathlib.Data.List.Sort
import TemplateBundler.Proofs.Files.Descent
import TemplateBundler.Proofs.Gather

/-!
# Discovery is exact

The search for templates fails where a way down comes back to a directory on it, and otherwise lists
what all ways down end at. Neither depends on the order in which directories name their entries.

* `FileTree.Finds`: the paths that are to be listed;
* `FileTree.Lists`: any way of reading directories;
* `FileTree.Exact`: what an outcome of a search says about the tree;
* `FileTree.visit_exact`, `FileTree.collect_exact`: one entry, and a whole directory;
* `FileTree.dropRepeats_pairwise`, `FileTree.mem_dropRepeats`: sorted paths without repeats;
* `FileTree.discover_exact`: the search from a root.
-/

namespace TemplateBundler.FileTree

/-- The names lead from the directory `here` to an entry that is no directory and has the path `file`
if the directory has the path `path`, and the mark of templates occurs in it. -/
structure FoundBy (tree : FileTree) (here : Location) (path : String) (names : List (List Char))
    (file : String) : Prop where
  endsAt : tree.EndsAt here names
  eq_path : file = pathBelow path names
  mark : templateMark <:+: file.toList

def Finds (tree : FileTree) (root file : String) : Prop :=
  ∃ start names, tree.DirectoryAt root start ∧ tree.FoundBy start root names file

/-- The listing names what a directory holds and nothing else, in any order. -/
def Lists (tree : FileTree) (listing : Listing) : Prop :=
  ∀ path location, tree.nodeAt? location = some .directory →
    ∀ name, name ∈ listing path location ↔ tree.Holds location name

theorem lists_entryNames (tree : FileTree) :
    tree.Lists fun _ directory => tree.entryNames directory :=
  fun _ _ _ _ => mem_entryNames

/-- A search that fails has met a cycle, and one that does not has met none and has found exactly the
listed paths. -/
def Exact (cyclic : Prop) (listed : String → Prop) : Except Failure (List String) → Prop
  | .error failure => cyclic ∧ ∃ path, failure = .linkCycle path
  | .ok found => ¬ cyclic ∧ ∀ path, path ∈ found ↔ listed path

def visit (tree : FileTree) (listing : Listing) (visited : List Location) (path : String)
    (name : List Char) : Except Failure (List String) :=
  match tree.directory? (child path name) with
  | some location =>
    if location ∈ visited then .error (.linkCycle (child path name))
    else
      tree.collect listing (location :: visited) (child path name)
        (listing (child path name) location)
  | none => .ok (if isTemplate (child path name) then [child path name] else [])

variable {tree : FileTree} {listing : Listing} {path root : String} {start here : Location}
  {name : List Char} {names : List (List Char)} {above visited : List Location}
  {cyclic : Prop} {listed : String → Prop}

/-! ## Outcomes -/

theorem Exact.congr {cyclic' : Prop} {listed' : String → Prop}
    {outcome : Except Failure (List String)} (h : Exact cyclic listed outcome)
    (hc : cyclic ↔ cyclic') (hl : ∀ path, listed path ↔ listed' path) :
    Exact cyclic' listed' outcome := by
  cases outcome with
  | error failure => exact ⟨hc.1 h.1, h.2⟩
  | ok found => exact ⟨fun hc' => h.1 (hc.2 hc'), fun path => (h.2 path).trans (hl path)⟩

theorem Exact.error_iff {outcome : Except Failure (List String)} (h : Exact cyclic listed outcome) :
    (∃ path, outcome = .error (.linkCycle path)) ↔ cyclic := by
  cases outcome with
  | error failure =>
    obtain ⟨hcyclic, path, rfl⟩ := h
    exact ⟨fun _ => hcyclic, fun _ => ⟨path, rfl⟩⟩
  | ok found => exact ⟨nofun, fun hcyclic => absurd hcyclic h.1⟩

theorem Exact.exists_ok {outcome : Except Failure (List String)} (h : Exact cyclic listed outcome)
    (hc : ¬ cyclic) : ∃ found, outcome = .ok found ∧ ∀ path, path ∈ found ↔ listed path := by
  cases outcome with
  | error failure => exact absurd h.1 hc
  | ok found => exact ⟨found, rfl, h.2⟩

/-! ## One directory -/

theorem isTemplate_iff : isTemplate path = true ↔ templateMark <:+: path.toList := Text.occurs_iff

theorem collect_nil : tree.collect listing visited path [] = .ok [] := by rw [collect]

theorem collect_cons (name : List Char) (rest : List (List Char)) :
    tree.collect listing visited path (name :: rest) =
      (tree.visit listing visited path name).bind fun found =>
        (tree.collect listing visited path rest).map (found ++ ·) := by
  rw [collect, visit]
  dsimp only
  cases tree.directory? (child path name) with
  | none => rfl
  | some location =>
    by_cases hv : location ∈ visited
    · simp only [hv, if_true, dif_pos]
      rfl
    · simp only [hv, if_false, dif_neg, not_false_eq_true]
      cases tree.collect listing (location :: visited) (child path name)
        (listing (child path name) location) <;> rfl

/-- A directory is searched exactly if each entry is. -/
theorem collect_exact_of_visit {cyclic : List Char → Prop} {listed : List Char → String → Prop}
    (h : ∀ name ∈ names,
      Exact (cyclic name) (listed name) (tree.visit listing visited path name)) :
    Exact (∃ name ∈ names, cyclic name) (fun path => ∃ name ∈ names, listed name path)
      (tree.collect listing visited path names) := by
  induction names with
  | nil =>
    rw [collect_nil]
    exact ⟨by simp, by simp⟩
  | cons name rest ih =>
    rw [List.forall_mem_cons] at h
    have hrest := ih h.2
    have hname := h.1
    rw [collect_cons]
    cases hv : tree.visit listing visited path name with
    | error failure =>
      rw [hv] at hname
      exact ⟨⟨name, List.mem_cons_self, hname.1⟩, hname.2⟩
    | ok found =>
      rw [hv] at hname
      cases hc : tree.collect listing visited path rest with
      | error failure =>
        rw [hc] at hrest
        obtain ⟨⟨other, hother, hcyclic⟩, hfailure⟩ := hrest
        exact ⟨⟨other, List.mem_cons_of_mem name hother, hcyclic⟩, hfailure⟩
      | ok more =>
        rw [hc] at hrest
        constructor
        · simpa [hname.1] using hrest.1
        · intro file
          simp [hname.2 file, hrest.2 file]

/-! ## Whole ways down -/

theorem foundBy_cons_of_enters {inner : Location} {rest : List (List Char)} {file : String}
    (hw : tree.WellFormed) (he : tree.Enters here name inner) :
    tree.FoundBy here path (name :: rest) file ↔
      tree.FoundBy inner (child path name) rest file := by
  constructor
  · rintro ⟨hends, hfile, hmark⟩
    cases hends with
    | entry _ hn => exact absurd he (hn inner)
    | enter he' hends =>
      rw [he.unique hw he']
      exact ⟨hends, hfile, hmark⟩
  · rintro ⟨hends, hfile, hmark⟩
    exact ⟨.enter he hends, hfile, hmark⟩

theorem foundBy_cons_of_not_enters {rest : List (List Char)} {file : String}
    (hh : tree.Holds here name) (hn : ∀ inner, ¬ tree.Enters here name inner) :
    tree.FoundBy here path (name :: rest) file ↔
      rest = [] ∧ file = child path name ∧ templateMark <:+: file.toList := by
  constructor
  · rintro ⟨hends, hfile, hmark⟩
    cases hends with
    | entry => exact ⟨rfl, hfile, hmark⟩
    | enter he _ => exact absurd he (hn _)
  · rintro ⟨rfl, hfile, hmark⟩
    exact ⟨.entry hh hn, hfile, hmark⟩

section

variable (hw : tree.WellFormed) (hl : tree.WithinLinkLimit root) (hr : tree.DirectoryAt root start)

include hw hl hr

/-- One entry is searched exactly if the directory that it may lead to is. -/
theorem visit_exact (h : tree.Descent start names (here :: above)) (ha : (here :: above).Nodup)
    (hh : tree.Holds here name)
    (ih : ∀ inner entry, entry = child (pathBelow root names) name →
      tree.Enters here name inner → inner ∉ here :: above →
      Exact (tree.Loops (inner :: here :: above))
        (fun file => ∃ rest, tree.FoundBy inner entry rest file)
        (tree.collect listing (inner :: here :: above) entry (listing entry inner))) :
    Exact
      (∃ inner, tree.Enters here name inner ∧
        (inner ∈ here :: above ∨ tree.Loops (inner :: here :: above)))
      (fun file => ∃ rest, tree.FoundBy here (pathBelow root names) (name :: rest) file)
      (tree.visit listing (here :: above) (pathBelow root names) name) := by
  have hfound : ∀ inner, tree.directory? (child (pathBelow root names) name) = some inner ↔
      tree.Enters here name inner := fun inner => hl.directory?_child hw hr h ha hh
  rw [visit]
  cases hd : tree.directory? (child (pathBelow root names) name) with
  | none =>
    -- the way has not come back, so a directory would have been found over few enough links
    have hn : ∀ inner, ¬ tree.Enters here name inner := by
      intro inner he
      rw [(hfound inner).2 he] at hd
      cases hd
    constructor
    · rintro ⟨inner, he, -⟩
      exact hn inner he
    · intro file
      simp only [foundBy_cons_of_not_enters hh hn, exists_eq_left]
      by_cases hmark : isTemplate (child (pathBelow root names) name)
      · rw [if_pos hmark, List.mem_singleton]
        exact ⟨fun hfile => ⟨hfile, hfile ▸ isTemplate_iff.1 hmark⟩, And.left⟩
      · rw [if_neg hmark]
        exact ⟨nofun, fun hfile => absurd (isTemplate_iff.2 (hfile.1 ▸ hfile.2)) hmark⟩
  | some inner =>
    have he := (hfound inner).1 hd
    dsimp only
    split
    next hmem => exact ⟨⟨inner, he, Or.inl hmem⟩, _, rfl⟩
    next hmem =>
      apply (ih inner _ rfl he hmem).congr
      · constructor
        · intro hloops
          exact ⟨inner, he, Or.inr hloops⟩
        · rintro ⟨inner', he', hinner'⟩
          obtain rfl := he.unique hw he'
          exact hinner'.resolve_left hmem
      · intro file
        simp only [foundBy_cons_of_enters hw he]

/-- The search below a directory is exact. The ways down that do not come back end, since each
directory on them is one fewer that has not been visited. -/
theorem collect_exact (hlist : tree.Lists listing) (h : tree.Descent start names (here :: above))
    (ha : (here :: above).Nodup) :
    Exact (tree.Loops (here :: above))
      (fun file => ∃ rest, tree.FoundBy here (pathBelow root names) rest file)
      (tree.collect listing (here :: above) (pathBelow root names)
        (listing (pathBelow root names) here)) := by
  induction hn : (tree.unvisited (here :: above)).length using Nat.strongRecOn
    generalizing names here above with
  | ind n ih =>
    subst hn
    have hholds := hlist (pathBelow root names) here (h.directoryAt hw hr).directory
    have hvisit := fun name hname => visit_exact hw hl hr h ha ((hholds name).1 hname) <| by
      rintro inner entry rfl he hmem
      rw [← pathBelow_concat]
      have hlt := length_unvisited_cons_lt (hw.mem_directories.2 he.directory) hmem
      exact ih _ hlt (h.enter he) (List.nodup_cons.2 ⟨hmem, ha⟩) rfl
    apply (collect_exact_of_visit hvisit).congr
    · rw [loops_iff]
      constructor
      · rintro ⟨name, -, hinner⟩
        exact ⟨name, hinner⟩
      · rintro ⟨name, inner, he, hinner⟩
        exact ⟨name, (hholds name).2 he.holds, inner, he, hinner⟩
    · intro file
      constructor
      · rintro ⟨name, -, rest, hfound⟩
        exact ⟨name :: rest, hfound⟩
      · rintro ⟨rest, hfound⟩
        obtain ⟨name, more, rfl, hname⟩ := hfound.endsAt.exists_holds
        exact ⟨name, (hholds name).2 hname, more, hfound⟩

end

/-! ## Order -/

theorem dropRepeats_sublist (paths : List String) : (dropRepeats paths).Sublist paths := by
  fun_induction dropRepeats paths with
  | case1 a b rest _ ih => exact ih.trans ((List.sublist_cons_self b rest).cons_cons a)
  | case2 a b rest _ ih => exact ih.cons_cons a
  | case3 => exact List.Sublist.refl _

theorem dropRepeats_pairwise {paths : List String}
    (h : paths.Pairwise fun a b => Path.le a b = true) :
    (dropRepeats paths).Pairwise Path.Before := by
  fun_induction dropRepeats paths with
  | case1 a b rest _ ih => exact ih (h.sublist ((List.sublist_cons_self b rest).cons_cons a))
  | case2 a b rest hs ih =>
    rw [List.pairwise_cons] at h
    have hab := Path.before_of_le (h.1 b List.mem_cons_self) hs
    refine List.pairwise_cons.2 ⟨fun path hpath => ?_, ih h.2⟩
    rcases List.mem_cons.1 ((dropRepeats_sublist (b :: rest)).mem hpath) with rfl | hrest
    · exact hab
    · exact hab.trans_le ((List.pairwise_cons.1 h.2).1 path hrest)
  | case3 paths hpaths =>
    cases paths with
    | nil => exact List.Pairwise.nil
    | cons a rest =>
      cases rest with
      | nil => exact List.pairwise_singleton Path.Before a
      | cons b rest => exact absurd rfl (hpaths a b rest)

theorem mem_dropRepeats {paths : List String}
    (h : ∀ a ∈ paths, ∀ b ∈ paths, Path.same a b = true → a = b) :
    path ∈ dropRepeats paths ↔ path ∈ paths := by
  fun_induction dropRepeats paths with
  | case1 a b rest hs ih =>
    obtain rfl := h a (by simp) b (by simp) hs
    rw [ih fun x hx y hy => h x (List.mem_cons_of_mem a hx) y (List.mem_cons_of_mem a hy)]
    simp
  | case2 a b rest hs ih =>
    rw [List.mem_cons,
      ih fun x hx y hy => h x (List.mem_cons_of_mem a hx) y (List.mem_cons_of_mem a hy),
      List.mem_cons (l := b :: rest)]
  | case3 => rfl

theorem dropRepeats_mergeSort_pairwise (paths : List String) :
    (dropRepeats (paths.mergeSort Path.le)).Pairwise Path.Before := by
  apply dropRepeats_pairwise
  apply List.pairwise_mergeSort
  · intro a b c
    exact Path.le_trans
  · intro a b
    simpa using Path.le_total a b

/-! ## The search from a root -/

theorem discoverBy_pairwise {paths : List String}
    (h : tree.discoverBy listing root = .ok paths) : paths.Pairwise Path.Before := by
  unfold discoverBy at h
  split at h
  · cases h
    exact List.Pairwise.nil
  · obtain ⟨found, -, rfl⟩ := exceptMap_eq_ok h
    exact dropRepeats_mergeSort_pairwise found

/-- Sorting and leaving out repeats changes nothing about which paths are found below a root. -/
theorem Exact.sorted (hw : tree.WellFormed) (hr : tree.DirectoryAt root start)
    {outcome : Except Failure (List String)}
    (h : Exact cyclic (fun file => ∃ names, tree.FoundBy start root names file) outcome) :
    Exact cyclic (fun file => ∃ names, tree.FoundBy start root names file)
      (outcome.map fun paths => dropRepeats (paths.mergeSort Path.le)) := by
  cases outcome with
  | error failure => exact h
  | ok found =>
    refine ⟨h.1, fun file => ?_⟩
    rw [mem_dropRepeats, List.mem_mergeSort, h.2]
    intro a ha b hb hs
    rw [List.mem_mergeSort, h.2] at ha hb
    obtain ⟨names, hends, rfl, -⟩ := ha
    obtain ⟨names', hends', rfl, -⟩ := hb
    rw [eq_of_same_pathBelow hr.ne_empty (hends.isName hw) (hends'.isName hw) hs]

theorem discoverBy_exact (hw : tree.WellFormed) (hl : tree.WithinLinkLimit root)
    (hlist : tree.Lists listing) :
    Exact (tree.HasCycle root) (tree.Finds root) (tree.discoverBy listing root) := by
  have hroot : ∀ {start}, tree.DirectoryAt root start → tree.directory? root = some start := by
    intro start hr
    have hfound := hl.directory? hw hr .start List.nodup_nil
    rwa [pathBelow_nil] at hfound
  unfold discoverBy
  cases hd : tree.directory? root with
  | none =>
    have hnone : ∀ start, ¬ tree.DirectoryAt root start := by
      intro start hr
      rw [hroot hr] at hd
      cases hd
    constructor
    · rintro ⟨start, _, _, _, hr, _⟩
      exact hnone start hr
    · intro file
      constructor
      · intro h
        cases h
      · rintro ⟨start, _, hr, _⟩
        exact absurd hr (hnone start)
  | some start =>
    have hr := directoryAt_of_directory? hw hd
    have hstart : ∀ {other}, tree.DirectoryAt root other → start = other := by
      intro other hother
      exact Option.some.inj (hd.symm.trans (hroot hother))
    have hcollect := collect_exact hw hl hr hlist .start (List.nodup_singleton start)
    rw [pathBelow_nil] at hcollect
    apply (hcollect.sorted hw hr).congr
    · rw [hasCycle_iff]
      constructor
      · intro hloops
        exact ⟨start, hr, hloops⟩
      · rintro ⟨other, hother, hloops⟩
        rwa [hstart hother]
    · intro file
      constructor
      · rintro ⟨names, hfound⟩
        exact ⟨start, names, hr, hfound⟩
      · rintro ⟨other, names, hother, hfound⟩
        rw [← hstart hother] at hfound
        exact ⟨names, hfound⟩

/-- A sorted list is known by what is in it, so reading directories in another order gives the same
list. -/
theorem discoverBy_eq_ok_of_lists (hw : tree.WellFormed) (hl : tree.WithinLinkLimit root)
    {other : Listing} (hlist : tree.Lists listing) (hother : tree.Lists other)
    {paths : List String} (h : tree.discoverBy listing root = .ok paths) :
    tree.discoverBy other root = .ok paths := by
  have hexact := discoverBy_exact hw hl hlist
  rw [h] at hexact
  obtain ⟨paths', h', hmem⟩ := (discoverBy_exact hw hl hother).exists_ok hexact.1
  have heq : paths' = paths := by
    apply (discoverBy_pairwise h').eq_of_mem_iff (discoverBy_pairwise h)
    intro path
    rw [hmem, hexact.2]
  rw [h', heq]

theorem finds_of_descent {inner : Location} {rest : List (List Char)}
    (hr : tree.DirectoryAt root start) (h : tree.Descent start names (here :: above))
    (he : tree.Enters here name inner) (hends : tree.EndsAt inner rest)
    (hmark : templateMark <:+: (pathBelow root (names ++ name :: rest)).toList) :
    tree.Finds root (pathBelow root (names ++ name :: rest)) :=
  ⟨start, names ++ name :: rest, hr, h.endsAt (.enter he hends), rfl, hmark⟩

theorem pathBelow_ne_of_ne {rest : List (List Char)} {other : List Char} (hw : tree.WellFormed)
    (hr : tree.DirectoryAt root start) (hends : tree.EndsAt start (names ++ name :: rest))
    (hends' : tree.EndsAt start (names ++ other :: rest)) (hne : name ≠ other) :
    pathBelow root (names ++ name :: rest) ≠ pathBelow root (names ++ other :: rest) := by
  intro heq
  have hnames := eq_of_same_pathBelow hr.ne_empty (hends.isName hw) (hends'.isName hw)
    (by rw [heq]; simp [Path.same])
  rw [List.append_cancel_left_eq, List.cons.injEq] at hnames
  exact hne hnames.1

/-- Discovery is exact. It fails if and only if a way down comes back to a directory on it. Where no
way does, it gives exactly the templates below the root, in increasing order. Neither depends on the
order in which directories are read. A directory that two entries of one directory lead to is
searched under both. -/
theorem discover_exact (tree : FileTree) (root : String) (hw : tree.WellFormed)
    (hl : tree.WithinLinkLimit root) :
    ((∃ path, tree.discover root = .error (.linkCycle path)) ↔ tree.HasCycle root) ∧
      (¬ tree.HasCycle root →
        ∃ paths, tree.discover root = .ok paths ∧ paths.Pairwise Path.Before ∧
          ∀ path, path ∈ paths ↔ tree.Finds root path) ∧
      (∀ listing, tree.Lists listing →
        ((∃ path, tree.discoverBy listing root = .error (.linkCycle path)) ↔
          ∃ path, tree.discover root = .error (.linkCycle path)) ∧
        ∀ paths, tree.discoverBy listing root = .ok paths ↔ tree.discover root = .ok paths) ∧
      (∀ paths start names here above a b inner rest, tree.discover root = .ok paths →
        tree.DirectoryAt root start → tree.Descent start names (here :: above) →
        tree.Enters here a inner → tree.Enters here b inner → a ≠ b → tree.EndsAt inner rest →
        pathBelow root (names ++ a :: rest) ≠ pathBelow root (names ++ b :: rest) ∧
          ∀ name ∈ [a, b],
            templateMark <:+: (pathBelow root (names ++ name :: rest)).toList →
            pathBelow root (names ++ name :: rest) ∈ paths) := by
  have hnames := lists_entryNames tree
  have hexact : Exact (tree.HasCycle root) (tree.Finds root) (tree.discover root) :=
    discoverBy_exact hw hl hnames
  refine ⟨hexact.error_iff, ?_, ?_, ?_⟩
  · intro hc
    obtain ⟨paths, hpaths, hmem⟩ := hexact.exists_ok hc
    exact ⟨paths, hpaths, discoverBy_pairwise hpaths, hmem⟩
  · intro listing hlist
    constructor
    · rw [(discoverBy_exact hw hl hlist).error_iff, hexact.error_iff]
    · intro paths
      constructor
      · exact discoverBy_eq_ok_of_lists hw hl hlist hnames
      · exact discoverBy_eq_ok_of_lists hw hl hnames hlist
  · intro paths start names here above a b inner rest hpaths hr h ha hb hne hends
    rw [hpaths] at hexact
    constructor
    · exact pathBelow_ne_of_ne hw hr (h.endsAt (.enter ha hends)) (h.endsAt (.enter hb hends)) hne
    · intro name hname hmark
      have he : tree.Enters here name inner := by
        rcases List.mem_pair.1 hname with rfl | rfl
        · exact ha
        · exact hb
      exact (hexact.2 _).2 (finds_of_descent hr h he hends hmark)

/-! ## A directory under two names -/

def sharedTree : FileTree :=
  ((({} : FileTree).write "r/a/x.twig" []).link "r/b" "a").link "r/y.twig" "gone"

theorem sharedTree_wellFormed : sharedTree.WellFormed :=
  ((WellFormed.empty.write _ _).link _ _).link _ _

theorem sharedTree_holds (h : sharedTree.Holds here name) :
    here = [] ∧ name = ['r'] ∨ here = [['r']] ∧ name = ['a'] ∨
      here = [['r'], ['a']] ∧ name = "x.twig".toList ∨ here = [['r']] ∧ name = ['b'] ∨
      here = [['r']] ∧ name = "y.twig".toList := by
  have hplaces : sharedTree.entries.map Prod.fst =
      [[] ++ [['r']], [['r']] ++ [['a']], [['r'], ['a']] ++ ["x.twig".toList], [['r']] ++ [['b']],
        [['r']] ++ ["y.twig".toList]] := by decide
  have hmem : here ++ [name] ∈ sharedTree.entries.map Prod.fst := by
    obtain ⟨entry, hentry, hplace⟩ := holds_iff.1 h
    exact hplace ▸ List.mem_map_of_mem hentry
  rw [hplaces] at hmem
  simpa only [List.mem_cons, List.not_mem_nil, or_false, List.append_singleton_inj] using hmem

theorem sharedTree_follows_directory : sharedTree.Follows 0 [['r']] [['a']] [['r'], ['a']] := by
  have hnode : sharedTree.nodeAt? ([['r']] ++ [['a']]) = some .directory := by decide
  exact .directory hnode .arrive

theorem sharedTree_follows_link : sharedTree.Follows 1 [['r']] [['b']] [['r'], ['a']] := by
  have hnode : sharedTree.nodeAt? ([['r']] ++ [['b']]) = some (.link ['a']) := by decide
  exact .link hnode sharedTree_follows_directory

theorem sharedTree_follows_root : sharedTree.Follows 0 [] [['r']] [['r']] := by
  have hnode : sharedTree.nodeAt? ([] ++ [['r']]) = some .directory := by decide
  exact .directory hnode .arrive

theorem sharedTree_follows_file :
    sharedTree.Follows 0 [['r'], ['a']] ["x.twig".toList] [['r'], ['a'], "x.twig".toList] := by
  have hnode : sharedTree.nodeAt? ([['r'], ['a']] ++ ["x.twig".toList]) = some (.file []) := by
    decide
  exact .file hnode

theorem sharedTree_not_leads {there : Location} :
    ¬ sharedTree.Leads [['r']] ["y.twig".toList] there := by
  have hnode : sharedTree.nodeAt? ([['r']] ++ ["y.twig".toList]) = some (.link "gone".toList) := by
    decide
  rw [leads_link_iff sharedTree_wellFormed hnode]
  exact not_leads_of_missing (by decide) (by decide)

theorem sharedTree_enters {inner : Location} (h : sharedTree.Enters here name inner) :
    here = [] ∧ name = ['r'] ∧ inner = [['r']] ∨
      here = [['r']] ∧ (name = ['a'] ∨ name = ['b']) ∧ inner = [['r'], ['a']] := by
  have hw := sharedTree_wellFormed
  have hplace := sharedTree_holds h.holds
  obtain ⟨links, hlinks⟩ := h.leads
  rcases hplace with ⟨rfl, rfl⟩ | ⟨rfl, rfl⟩ | ⟨rfl, rfl⟩ | ⟨rfl, rfl⟩ | ⟨rfl, rfl⟩
  · exact Or.inl ⟨rfl, rfl, hlinks.unique hw sharedTree_follows_root⟩
  · exact Or.inr ⟨rfl, Or.inl rfl, hlinks.unique hw sharedTree_follows_directory⟩
  · obtain rfl := hlinks.unique hw sharedTree_follows_file
    exact absurd h.directory (by decide)
  · exact Or.inr ⟨rfl, Or.inr rfl, hlinks.unique hw sharedTree_follows_link⟩
  · exact absurd ⟨links, hlinks⟩ sharedTree_not_leads

theorem sharedTree_directoryAt (start : Location) :
    sharedTree.DirectoryAt "r" start ↔ start = [['r']] := by
  have hsegments : Path.segments "r".toList = [['r']] := by decide
  constructor
  · rintro ⟨-, ⟨links, hlinks⟩, -⟩
    rw [hsegments] at hlinks
    exact hlinks.unique sharedTree_wellFormed sharedTree_follows_root
  · rintro rfl
    exact ⟨by decide, ⟨0, hsegments ▸ sharedTree_follows_root⟩, by decide⟩

theorem sharedTree_descent {way : List Location} (h : sharedTree.Descent [['r']] names way) :
    names = [] ∧ way = [[['r']]] ∨
      (names = [['a']] ∨ names = [['b']]) ∧ way = [[['r'], ['a']], [['r']]] := by
  induction h with
  | start => exact Or.inl ⟨rfl, rfl⟩
  | enter _ he ih =>
    obtain ⟨rfl, -⟩ | ⟨rfl, hname, rfl⟩ := sharedTree_enters he
    · simp at ih
    · obtain ⟨rfl, hway⟩ | ⟨-, hway⟩ := ih
      · cases hway
        exact Or.inr ⟨by simpa using hname, rfl⟩
      · simp at hway

theorem sharedTree_withinLinkLimit : sharedTree.WithinLinkLimit "r" := by
  intro start names here above hr h _
  rw [sharedTree_directoryAt] at hr
  subst hr
  have hroot := sharedTree_follows_root
  have hd : sharedTree.nodeAt? [['r']] = some .directory := by decide
  obtain ⟨rfl, hway⟩ | ⟨rfl | rfl, hway⟩ := sharedTree_descent h
  · cases hway
    exact ⟨0, by decide, hroot⟩
  · cases hway
    exact ⟨0, by decide, hroot.append hd sharedTree_follows_directory⟩
  · cases hway
    exact ⟨1, by decide, hroot.append hd sharedTree_follows_link⟩

theorem sharedTree_not_hasCycle : ¬ sharedTree.HasCycle "r" := by
  rintro ⟨start, names, here, above, hr, h, hmem⟩
  rw [sharedTree_directoryAt] at hr
  subst hr
  obtain ⟨-, hway⟩ | ⟨-, hway⟩ := sharedTree_descent h
  · cases hway
    simp at hmem
  · cases hway
    simp at hmem

/-- The template is listed under the directory and under the link, in whatever order the root names
its entries, and so is the link that leads nowhere. -/
theorem discover_exact_sharedTree :
    sharedTree.WellFormed ∧ sharedTree.WithinLinkLimit "r" ∧
      ∀ listing, sharedTree.Lists listing →
        ∃ paths, sharedTree.discoverBy listing "r" = .ok paths ∧
          "r/a/x.twig" ∈ paths ∧ "r/b/x.twig" ∈ paths ∧ "r/y.twig" ∈ paths := by
  refine ⟨sharedTree_wellFormed, sharedTree_withinLinkLimit, ?_⟩
  intro listing hlist
  have hexact := discover_exact sharedTree "r" sharedTree_wellFormed sharedTree_withinLinkLimit
  obtain ⟨paths, hpaths, -, hmem⟩ := hexact.2.1 sharedTree_not_hasCycle
  have hr := (sharedTree_directoryAt [['r']]).2 rfl
  have ha : sharedTree.Enters [['r']] ['a'] [['r'], ['a']] :=
    ⟨⟨.directory, by decide⟩, ⟨0, sharedTree_follows_directory⟩, by decide⟩
  have hb : sharedTree.Enters [['r']] ['b'] [['r'], ['a']] :=
    ⟨⟨.link ['a'], by decide⟩, ⟨1, sharedTree_follows_link⟩, by decide⟩
  have hends : sharedTree.EndsAt [['r'], ['a']] ["x.twig".toList] := by
    refine .entry ⟨.file [], by decide⟩ fun inner he => ?_
    have := sharedTree_enters he
    simp at this
  have hlink : sharedTree.EndsAt [['r']] ["y.twig".toList] :=
    .entry ⟨.link "gone".toList, by decide⟩ fun _ he => sharedTree_not_leads he.leads
  have hboth := (hexact.2.2.2 paths _ [] _ _ _ _ _ _ hpaths hr .start ha hb (by decide) hends).2
  refine ⟨paths, ((hexact.2.2.1 listing hlist).2 paths).2 hpaths, ?_, ?_, ?_⟩
  · exact hboth ['a'] (by simp) (isTemplate_iff.1 (by decide))
  · exact hboth ['b'] (by simp) (isTemplate_iff.1 (by decide))
  · exact (hmem "r/y.twig").2 ⟨[['r']], _, hr, hlink, by decide, isTemplate_iff.1 (by decide)⟩

end TemplateBundler.FileTree
