import TemplateBundler.Files.Discovery
import TemplateBundler.Proofs.Files.Following

/-!
# Descents: ways down from a directory

A descent enters a directory, one of its entries that is or leads to a directory, an entry of that
one, and so on. Nothing here counts links or mentions the search for templates.

* `FileTree.DirectoryAt`: the directory that a path leads to;
* `FileTree.Enters`, `FileTree.Descent`: one step down, and a whole way with all directories on it;
* `FileTree.EndsAt`: the names that lead down to something that is no directory;
* `FileTree.HasCycle`: a way down comes back to a directory on it;
* `FileTree.Loops`, `FileTree.hasCycle_iff`: the same, seen from the end of a way;
* `FileTree.WithinLinkLimit`: no way down takes more links than a search may follow.
-/

namespace TemplateBundler.FileTree

/-- The segments lead from one location to another, over any number of links. -/
def Leads (tree : FileTree) (here : Location) (segments : List (List Char)) (there : Location) :
    Prop :=
  ∃ links, tree.Follows links here segments there

structure DirectoryAt (tree : FileTree) (path : String) (location : Location) : Prop where
  ne_empty : path ≠ ""
  leads : tree.Leads [] (Path.segments path.toList) location
  directory : tree.nodeAt? location = some .directory

/-- The directory `here` holds an entry that is, or leads to, the directory `inner`. -/
structure Enters (tree : FileTree) (here : Location) (name : List Char) (inner : Location) :
    Prop where
  holds : tree.Holds here name
  leads : tree.Leads here [name] inner
  directory : tree.nodeAt? inner = some .directory

/-- The names lead down from `start`, each into a directory. The way down lists the directories, the
last one first. -/
inductive Descent (tree : FileTree) (start : Location) :
    (names : List (List Char)) → (way : List Location) → Prop where
  | start : Descent tree start [] [start]
  | enter {names : List (List Char)} {name : List Char} {here inner : Location}
      {above : List Location} :
      Descent tree start names (here :: above) → tree.Enters here name inner →
      Descent tree start (names ++ [name]) (inner :: here :: above)

/-- The names lead down through directories to an entry that neither is nor leads to a directory. -/
inductive EndsAt (tree : FileTree) : (here : Location) → (names : List (List Char)) → Prop where
  | entry {here : Location} {name : List Char} :
      tree.Holds here name → (∀ inner, ¬ tree.Enters here name inner) → EndsAt tree here [name]
  | enter {here inner : Location} {name : List Char} {names : List (List Char)} :
      tree.Enters here name inner → EndsAt tree inner names → EndsAt tree here (name :: names)

def pathBelow (path : String) (names : List (List Char)) : String := names.foldl child path

/-- A way down from the root comes to a directory that is already on it. -/
def HasCycle (tree : FileTree) (root : String) : Prop :=
  ∃ start names here above, tree.DirectoryAt root start ∧
    tree.Descent start names (here :: above) ∧ here ∈ above

/-- The path of every way down from the root is followed over no more links than a search may
follow. A way that has come back to a directory is not followed further. -/
def WithinLinkLimit (tree : FileTree) (root : String) : Prop :=
  ∀ start names here above, tree.DirectoryAt root start →
    tree.Descent start names (here :: above) → above.Nodup →
    ∃ links ≤ maxLinks, tree.Follows links [] (Path.segments (pathBelow root names).toList) here

variable {tree : FileTree} {path root : String} {start here inner : Location} {name : List Char}
  {names : List (List Char)} {above way : List Location}

/-! ## One step down -/

theorem toList_child (path : String) (name : List Char) :
    (child path name).toList = Path.join path.toList name := by
  rw [child, String.toList_ofList]

theorem child_ne_empty (hp : path ≠ "") (hn : Path.IsName name) : child path name ≠ "" := by
  intro h
  apply Path.join_name_ne_nil (String.toList_eq_nil_iff.not.2 hp) hn
  rw [← toList_child, h]
  rfl

theorem leads_segments (hw : tree.WellFormed) (hd : tree.DirectoryAt path here)
    (hn : Path.IsName name) :
    ∃ front, Path.segments (child path name).toList = front ++ [name] ∧
      tree.Leads [] front here := by
  obtain ⟨links, hlinks⟩ := hd.leads
  obtain ⟨front, hj, hfront⟩ := Path.join_name (String.toList_eq_nil_iff.not.2 hd.ne_empty) hn
  -- the path may end with a slash, whose empty segment is missing in the path of the entry
  refine ⟨Path.segments front, ?_, links, ?_⟩
  · rw [toList_child, hj, Path.segments_append_slash,
      Path.segments_of_slash_notMem hn.slash_notMem]
  · rcases hfront with hfront | hfront
    · rwa [hfront] at hlinks
    · rw [hfront, Path.segments_append_slash] at hlinks
      exact hlinks.of_append_blank hw

namespace DirectoryAt

theorem child (hw : tree.WellFormed) (hd : tree.DirectoryAt path here)
    (he : tree.Enters here name inner) : tree.DirectoryAt (child path name) inner := by
  have hn := hw.isName_of_holds he.holds
  obtain ⟨front, hs, links, hfront⟩ := leads_segments hw hd hn
  obtain ⟨more, hmore⟩ := he.leads
  refine ⟨child_ne_empty hd.ne_empty hn, ?_, he.directory⟩
  rw [hs]
  exact ⟨links + more, hfront.append hd.directory hmore⟩

theorem enters (hw : tree.WellFormed) (hd : tree.DirectoryAt path here)
    (hh : tree.Holds here name) (hi : tree.DirectoryAt (FileTree.child path name) inner) :
    tree.Enters here name inner := by
  obtain ⟨front, hs, links, hfront⟩ := leads_segments hw hd (hw.isName_of_holds hh)
  obtain ⟨all, hall⟩ := hi.leads
  rw [hs] at hall
  exact ⟨hh, hfront.split hw hd.directory hall, hi.directory⟩

end DirectoryAt

theorem Enters.unique {inner inner' : Location} (hw : tree.WellFormed)
    (h : tree.Enters here name inner) (h' : tree.Enters here name inner') : inner = inner' := by
  obtain ⟨links, hlinks⟩ := h.leads
  obtain ⟨links', hlinks'⟩ := h'.leads
  exact hlinks.unique hw hlinks'

theorem leads_link_iff {there : Location} {target : List Char} {rest : List (List Char)}
    (hw : tree.WellFormed) (h : tree.nodeAt? (here ++ [name]) = some (.link target)) :
    tree.Leads here (name :: rest) there ↔
      tree.Leads (if Path.isAbsolute target then [] else here) (Path.segments target ++ rest)
        there := by
  constructor
  · rintro ⟨links, hlinks⟩
    have hfound := hlinks.followFrom? hw (Nat.le_succ links)
    rw [hw.followFrom?_link h] at hfound
    obtain ⟨used, -, hused⟩ := follows_of_followFrom? hfound
    exact ⟨used, hused⟩
  · rintro ⟨links, hlinks⟩
    exact ⟨links + 1, .link h hlinks⟩

theorem not_leads_of_missing {there : Location} {rest : List (List Char)} (hn : Path.IsName name)
    (h : tree.nodeAt? (here ++ [name]) = none) : ¬ tree.Leads here (name :: rest) there := by
  rintro ⟨links, hlinks⟩
  cases hlinks with
  | stay hdot _ => exact hdot.elim hn.ne_nil hn.ne_dot
  | up _ => exact hn.ne_dots rfl
  | directory hnode _ => rw [h] at hnode; cases hnode
  | file hnode => rw [h] at hnode; cases hnode
  | link hnode _ => rw [h] at hnode; cases hnode

/-! ## Whole ways -/

@[simp]
theorem pathBelow_nil (path : String) : pathBelow path [] = path := rfl

theorem pathBelow_cons (path : String) (name : List Char) (names : List (List Char)) :
    pathBelow path (name :: names) = pathBelow (child path name) names := rfl

theorem pathBelow_append (path : String) (names more : List (List Char)) :
    pathBelow path (names ++ more) = pathBelow (pathBelow path names) more := List.foldl_append

theorem pathBelow_concat (path : String) (names : List (List Char)) (name : List Char) :
    pathBelow path (names ++ [name]) = child (pathBelow path names) name :=
  pathBelow_append path names [name]

theorem Descent.directoryAt (hw : tree.WellFormed) (hr : tree.DirectoryAt root start)
    (h : tree.Descent start names (here :: above)) :
    tree.DirectoryAt (pathBelow root names) here := by
  generalize hway : here :: above = way at h
  induction h generalizing here above with
  | start =>
    cases hway
    exact hr
  | enter _ he ih =>
    cases hway
    rw [pathBelow_concat]
    exact (ih rfl).child hw he

theorem Descent.endsAt {rest : List (List Char)} (h : tree.Descent start names (here :: above))
    (he : tree.EndsAt here rest) : tree.EndsAt start (names ++ rest) := by
  generalize hway : here :: above = way at h
  induction h generalizing here above rest with
  | start =>
    cases hway
    exact he
  | enter _ henters ih =>
    cases hway
    rw [List.append_assoc]
    exact ih (.enter henters he) rfl

theorem EndsAt.exists_holds (h : tree.EndsAt here names) :
    ∃ name rest, names = name :: rest ∧ tree.Holds here name := by
  cases h with
  | entry hh _ => exact ⟨_, [], rfl, hh⟩
  | enter he _ => exact ⟨_, _, rfl, he.holds⟩

theorem EndsAt.isName (hw : tree.WellFormed) (h : tree.EndsAt here names) :
    ∀ name ∈ names, Path.IsName name := by
  induction h with
  | entry hh _ => simpa using hw.isName_of_holds hh
  | enter he _ ih => exact List.forall_mem_cons.2 ⟨hw.isName_of_holds he.holds, ih⟩

theorem components_pathBelow (hp : path ≠ "") (hn : ∀ name ∈ names, Path.IsName name) :
    Path.components (pathBelow path names).toList =
      Path.components path.toList ++ names.map .name := by
  induction names generalizing path with
  | nil => simp
  | cons name names ih =>
    rw [List.forall_mem_cons] at hn
    rw [pathBelow_cons, ih (child_ne_empty hp hn.1) hn.2, toList_child,
      Path.components_join (String.toList_eq_nil_iff.not.2 hp) hn.1]
    simp

/-- Paths of different entries are different, also when they are only compared by components. -/
theorem eq_of_same_pathBelow {names' : List (List Char)} (hp : path ≠ "")
    (hn : ∀ name ∈ names, Path.IsName name) (hn' : ∀ name ∈ names', Path.IsName name)
    (h : Path.same (pathBelow path names) (pathBelow path names') = true) : names = names' := by
  rw [Path.same, beq_iff_eq, components_pathBelow hp hn, components_pathBelow hp hn',
    List.append_cancel_left_eq] at h
  exact List.map_injective_iff.2 (fun _ _ => Path.Component.name.inj) h

/-! ## Cycles -/

/-- From the end of the way down it is possible to go on to a directory on it. -/
inductive Loops (tree : FileTree) : (way : List Location) → Prop where
  | back {here inner : Location} {above : List Location} {name : List Char} :
      tree.Enters here name inner → inner ∈ here :: above → Loops tree (here :: above)
  | enter {here inner : Location} {above : List Location} {name : List Char} :
      tree.Enters here name inner → Loops tree (inner :: here :: above) →
      Loops tree (here :: above)

theorem loops_iff :
    tree.Loops (here :: above) ↔
      ∃ name inner, tree.Enters here name inner ∧
        (inner ∈ here :: above ∨ tree.Loops (inner :: here :: above)) := by
  constructor
  · intro h
    cases h with
    | back he hmem => exact ⟨_, _, he, Or.inl hmem⟩
    | enter he hl => exact ⟨_, _, he, Or.inr hl⟩
  · rintro ⟨name, inner, he, hmem | hl⟩
    · exact .back he hmem
    · exact .enter he hl

theorem Descent.loops (h : tree.Descent start names way) (hl : tree.Loops way) :
    tree.Loops [start] := by
  induction h with
  | start => exact hl
  | enter _ he ih => exact ih (.enter he hl)

theorem Loops.exists_descent (h : tree.Loops way) (hd : tree.Descent start names way) :
    ∃ names here above, tree.Descent start names (here :: above) ∧ here ∈ above := by
  induction h generalizing names with
  | back he hmem => exact ⟨_, _, _, hd.enter he, hmem⟩
  | enter he _ ih => exact ih (hd.enter he)

theorem hasCycle_iff :
    tree.HasCycle root ↔ ∃ start, tree.DirectoryAt root start ∧ tree.Loops [start] := by
  constructor
  · rintro ⟨start, names, here, above, hr, hd, hmem⟩
    refine ⟨start, hr, ?_⟩
    cases hd with
    | start => cases hmem
    | enter hd he => exact hd.loops (.back he hmem)
  · rintro ⟨start, hr, hl⟩
    obtain ⟨names, here, above, hd, hmem⟩ := hl.exists_descent .start
    exact ⟨start, names, here, above, hr, hd, hmem⟩

/-! ## The search for directories -/

theorem directory?_eq_some_iff (hw : tree.WellFormed) {location : Location} :
    tree.directory? path = some location ↔
      path ≠ "" ∧ (∃ links ≤ maxLinks, tree.Follows links [] (Path.segments path.toList) location) ∧
        tree.nodeAt? location = some .directory := by
  rw [directory?, Option.filter_eq_some_iff, follow?, ← followFrom?_eq_some_iff hw]
  simp only [decide_eq_true_eq, hw.mem_directories]
  by_cases hp : path = ""
  · simp [hp]
  · simp [hp]

theorem directoryAt_of_directory? (hw : tree.WellFormed) {location : Location}
    (h : tree.directory? path = some location) : tree.DirectoryAt path location := by
  obtain ⟨hp, ⟨links, -, hlinks⟩, hd⟩ := (directory?_eq_some_iff hw).1 h
  exact ⟨hp, ⟨links, hlinks⟩, hd⟩

/-- Along a way that does not come back, the search finds every directory. -/
theorem WithinLinkLimit.directory? (hl : tree.WithinLinkLimit root) (hw : tree.WellFormed)
    (hr : tree.DirectoryAt root start) (h : tree.Descent start names (here :: above))
    (ha : above.Nodup) : tree.directory? (pathBelow root names) = some here := by
  have hd := h.directoryAt hw hr
  exact (directory?_eq_some_iff hw).2 ⟨hd.ne_empty, hl start names here above hr h ha, hd.directory⟩

theorem WithinLinkLimit.directory?_child (hl : tree.WithinLinkLimit root) (hw : tree.WellFormed)
    (hr : tree.DirectoryAt root start) (h : tree.Descent start names (here :: above))
    (ha : (here :: above).Nodup) (hh : tree.Holds here name) :
    tree.directory? (child (pathBelow root names) name) = some inner ↔ tree.Enters here name inner := by
  constructor
  · intro hi
    exact (h.directoryAt hw hr).enters hw hh (directoryAt_of_directory? hw hi)
  · intro he
    rw [← pathBelow_concat]
    exact hl.directory? hw hr (h.enter he) ha

end TemplateBundler.FileTree
