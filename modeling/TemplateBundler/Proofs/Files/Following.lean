import Mathlib.Data.List.Nodup
import TemplateBundler.Files.Tree
import TemplateBundler.Proofs.Path.Components

/-!
# Following paths: where they lead

The rules by which a path leads through directories and links, with no limit on the links, and what
they say about the search for entries.

* `FileTree.WellFormed`: what every tree satisfies that is built by writing, linking and removing;
* `FileTree.Follows`: the rules, with the number of links that are followed;
* `FileTree.followFrom?_eq_some_iff`: the search finds what the rules give within its limit;
* `FileTree.Follows.append`, `FileTree.Follows.split`: a way through a directory is two ways;
* `FileTree.DirectoryAt`, `FileTree.Enters`: paths that lead to directories, and one step further.
-/

namespace TemplateBundler.FileTree

/-- Every entry has one place, and every part of a place is a name. -/
structure WellFormed (tree : FileTree) : Prop where
  nodup : (tree.entries.map Prod.fst).Nodup
  names : ∀ entry ∈ tree.entries, ∀ name ∈ entry.1, Path.IsName name

/-- Something stands under this name in the directory, be it a link that leads nowhere. -/
def Holds (tree : FileTree) (location : Location) (name : List Char) : Prop :=
  ∃ node, tree.nodeAt? (location ++ [name]) = some node

/-- The segments lead from the directory `here` to the location `there`, on a way along which so many
links are followed. -/
inductive Follows (tree : FileTree) :
    (links : Nat) → (here : Location) → (segments : List (List Char)) → (there : Location) → Prop where
  | arrive {here : Location} : Follows tree 0 here [] here
  | stay {links : Nat} {here there : Location} {segment : List Char} {rest : List (List Char)} :
      segment = [] ∨ segment = ['.'] → Follows tree links here rest there →
      Follows tree links here (segment :: rest) there
  | up {links : Nat} {here there : Location} {rest : List (List Char)} :
      Follows tree links here.dropLast rest there →
      Follows tree links here (['.', '.'] :: rest) there
  | directory {links : Nat} {here there : Location} {name : List Char} {rest : List (List Char)} :
      tree.nodeAt? (here ++ [name]) = some .directory →
      Follows tree links (here ++ [name]) rest there → Follows tree links here (name :: rest) there
  | file {here : Location} {name : List Char} {content : List UInt8} :
      tree.nodeAt? (here ++ [name]) = some (.file content) →
      Follows tree 0 here [name] (here ++ [name])
  | link {links : Nat} {here there : Location} {name target : List Char}
      {rest : List (List Char)} :
      tree.nodeAt? (here ++ [name]) = some (.link target) →
      Follows tree links (if Path.isAbsolute target then [] else here)
        (Path.segments target ++ rest) there →
      Follows tree (links + 1) here (name :: rest) there

variable {tree : FileTree} {links used : Nat} {here there mid : Location} {name : List Char}
  {rest segments : List (List Char)}

/-! ## Entries -/

theorem nodeAt?_concat (here : Location) (name : List Char) :
    tree.nodeAt? (here ++ [name]) =
      (tree.entries.find? fun entry => entry.1 = here ++ [name]).map Prod.snd := by
  rw [nodeAt?, if_neg (by simp)]

theorem mem_entries_of_nodeAt? {node : FileNode} (h : tree.nodeAt? (here ++ [name]) = some node) :
    (here ++ [name], node) ∈ tree.entries := by
  rw [nodeAt?_concat, Option.map_eq_some_iff] at h
  obtain ⟨entry, hfind, rfl⟩ := h
  have hplace : entry.1 = here ++ [name] := by simpa using List.find?_some hfind
  rw [← hplace]
  exact List.mem_of_find?_eq_some hfind

theorem holds_iff : tree.Holds here name ↔ ∃ entry ∈ tree.entries, entry.1 = here ++ [name] := by
  unfold Holds
  constructor
  · rintro ⟨node, h⟩
    exact ⟨_, mem_entries_of_nodeAt? h, rfl⟩
  · intro h
    have hsome : (tree.entries.find? fun entry => entry.1 = here ++ [name]).isSome := by
      simpa using h
    obtain ⟨entry, hfind⟩ := Option.isSome_iff_exists.1 hsome
    exact ⟨entry.2, by rw [nodeAt?_concat, hfind]; rfl⟩

theorem mem_entryNames : name ∈ tree.entryNames here ↔ tree.Holds here name := by
  rw [entryNames, List.mem_mergeSort, List.mem_filterMap, holds_iff]
  refine exists_congr fun entry => and_congr_right fun _ => ?_
  constructor
  · intro h
    split at h
    · next hlast =>
      rw [← hlast]
      exact (List.dropLast_append_getLast? name h).symm
    · cases h
  · intro h
    simp [h]

namespace WellFormed

theorem isName_of_nodeAt? (hw : tree.WellFormed) {node : FileNode}
    (h : tree.nodeAt? (here ++ [name]) = some node) : Path.IsName name :=
  hw.names _ (mem_entries_of_nodeAt? h) name (by simp)

theorem isName_of_holds (hw : tree.WellFormed) (h : tree.Holds here name) : Path.IsName name := by
  obtain ⟨node, hnode⟩ := h
  exact hw.isName_of_nodeAt? hnode

theorem nodeAt?_of_mem (hw : tree.WellFormed) {location : Location} {node : FileNode}
    (h : (location, node) ∈ tree.entries) (hl : location ≠ []) :
    tree.nodeAt? location = some node := by
  have hfind : tree.entries.find? (fun entry => entry.1 = location) = some (location, node) := by
    rw [List.find?_eq_some_iff_append]
    obtain ⟨before, after, hsplit⟩ := List.append_of_mem h
    refine ⟨by simp, before, after, hsplit, ?_⟩
    intro entry hentry
    have hnodup := hw.nodup
    rw [hsplit, List.map_append, List.map_cons, List.nodup_append] at hnodup
    simpa using hnodup.2.2 entry.1 (List.mem_map_of_mem hentry) location (by simp)
  rw [nodeAt?, if_neg hl, hfind]
  rfl

theorem mem_directories (hw : tree.WellFormed) {location : Location} :
    location ∈ tree.directories ↔ tree.nodeAt? location = some .directory := by
  by_cases hl : location = []
  · subst hl
    simp [directories, nodeAt?]
  · have hm : location ∈ tree.directories ↔ (location, FileNode.directory) ∈ tree.entries := by
      simp [directories, hl]
    rw [hm]
    constructor
    · intro h
      exact hw.nodeAt?_of_mem h hl
    · intro h
      obtain ⟨above, last, rfl⟩ := List.eq_nil_or_concat' location |>.resolve_left hl
      exact mem_entries_of_nodeAt? h

end WellFormed

/-! ## The search and the rules -/

theorem followFrom?_stay {segment : List Char} (h : segment = [] ∨ segment = ['.']) :
    tree.followFrom? links here (segment :: rest) = tree.followFrom? links here rest := by
  rw [followFrom?, if_pos h]

theorem followFrom?_up :
    tree.followFrom? links here (['.', '.'] :: rest) =
      tree.followFrom? links here.dropLast rest := by
  rw [followFrom?, if_neg (by simp), if_pos rfl]

namespace WellFormed

theorem followFrom?_directory (hw : tree.WellFormed)
    (h : tree.nodeAt? (here ++ [name]) = some .directory) :
    tree.followFrom? links here (name :: rest) = tree.followFrom? links (here ++ [name]) rest := by
  have hn := hw.isName_of_nodeAt? h
  rw [followFrom?, if_neg (by simp [hn.ne_nil, hn.ne_dot]), if_neg hn.ne_dots, h]

theorem followFrom?_file (hw : tree.WellFormed) {content : List UInt8}
    (h : tree.nodeAt? (here ++ [name]) = some (.file content)) :
    tree.followFrom? links here (name :: rest) =
      if rest = [] then some (here ++ [name]) else none := by
  have hn := hw.isName_of_nodeAt? h
  rw [followFrom?, if_neg (by simp [hn.ne_nil, hn.ne_dot]), if_neg hn.ne_dots, h]

theorem followFrom?_link (hw : tree.WellFormed) {target : List Char}
    (h : tree.nodeAt? (here ++ [name]) = some (.link target)) :
    tree.followFrom? (links + 1) here (name :: rest) =
      tree.followFrom? links (if Path.isAbsolute target then [] else here)
        (Path.segments target ++ rest) := by
  have hn := hw.isName_of_nodeAt? h
  rw [followFrom?, if_neg (by simp [hn.ne_nil, hn.ne_dot]), if_neg hn.ne_dots, h]

theorem followFrom?_link_zero (hw : tree.WellFormed) {target : List Char}
    (h : tree.nodeAt? (here ++ [name]) = some (.link target)) :
    tree.followFrom? 0 here (name :: rest) = none := by
  have hn := hw.isName_of_nodeAt? h
  rw [followFrom?, if_neg (by simp [hn.ne_nil, hn.ne_dot]), if_neg hn.ne_dots, h]

end WellFormed

/-- What the search finds, the rules give with no more links than it was allowed. -/
theorem follows_of_followFrom? (h : tree.followFrom? links here segments = some there) :
    ∃ used ≤ links, tree.Follows used here segments there := by
  fun_induction followFrom? tree links here segments generalizing there with
  | case1 links here =>
    cases h
    exact ⟨0, Nat.zero_le links, .arrive⟩
  | case2 links here segment rest hdot ih =>
    obtain ⟨used, hle, hused⟩ := ih h
    exact ⟨used, hle, .stay hdot hused⟩
  | case3 links here rest hdot ih =>
    obtain ⟨used, hle, hused⟩ := ih h
    exact ⟨used, hle, .up hused⟩
  | case4 => cases h
  | case5 links here segment rest _ _ hnode ih =>
    obtain ⟨used, hle, hused⟩ := ih h
    exact ⟨used, hle, .directory hnode hused⟩
  | case6 links here segment _ _ content hnode =>
    cases h
    exact ⟨0, Nat.zero_le links, .file hnode⟩
  | case7 => cases h
  | case8 => cases h
  | case9 here segment rest _ _ target hnode fewer ih =>
    obtain ⟨used, hle, hused⟩ := ih h
    exact ⟨used + 1, Nat.succ_le_succ hle, .link hnode hused⟩

/-- What the rules give is found by every search that may follow enough links. -/
theorem Follows.followFrom? (hw : tree.WellFormed) (h : tree.Follows used here segments there)
    (hle : used ≤ links) : tree.followFrom? links here segments = some there := by
  induction h generalizing links with
  | arrive => rw [FileTree.followFrom?]
  | stay hdot _ ih => rw [followFrom?_stay hdot, ih hle]
  | up _ ih => rw [followFrom?_up, ih hle]
  | directory hnode _ ih => rw [hw.followFrom?_directory hnode, ih hle]
  | file hnode => rw [hw.followFrom?_file hnode, if_pos rfl]
  | link hnode _ ih =>
    cases links with
    | zero => exact absurd hle (by simp)
    | succ fewer => rw [hw.followFrom?_link hnode, ih (Nat.le_of_succ_le_succ hle)]

theorem followFrom?_eq_some_iff (hw : tree.WellFormed) :
    tree.followFrom? links here segments = some there ↔
      ∃ used ≤ links, tree.Follows used here segments there := by
  refine ⟨follows_of_followFrom?, ?_⟩
  rintro ⟨used, hle, hused⟩
  exact hused.followFrom? hw hle

theorem Follows.unique (hw : tree.WellFormed) {used' : Nat} {there' : Location}
    (h : tree.Follows used here segments there) (h' : tree.Follows used' here segments there') :
    there = there' := by
  have hf := h.followFrom? hw (Nat.le_max_left used used')
  have hf' := h'.followFrom? hw (Nat.le_max_right used used')
  exact Option.some.inj (hf.symm.trans hf')

/-! ## Ways through a directory -/

theorem Follows.append {more : Nat} {behind : List (List Char)}
    (h : tree.Follows used here segments mid) (hd : tree.nodeAt? mid = some .directory)
    (h' : tree.Follows more mid behind there) :
    tree.Follows (used + more) here (segments ++ behind) there := by
  induction h with
  | arrive => rwa [Nat.zero_add]
  | stay hdot _ ih => exact .stay hdot (ih hd h')
  | up _ ih => exact .up (ih hd h')
  | directory hnode _ ih => exact .directory hnode (ih hd h')
  | file hnode =>
    rw [hnode] at hd
    cases hd
  | link hnode _ ih =>
    have hrest := ih hd h'
    rw [List.append_assoc] at hrest
    rw [Nat.add_right_comm]
    exact .link hnode hrest

/-- A way on behind a directory begins there. -/
theorem Follows.split (hw : tree.WellFormed) {all : Nat} {behind : List (List Char)}
    (h : tree.Follows used here segments mid) (hd : tree.nodeAt? mid = some .directory)
    (h' : tree.Follows all here (segments ++ behind) there) :
    ∃ more, tree.Follows more mid behind there := by
  -- the search is a function, so on the first way there is one case for each rule and not one for
  -- each pair of rules
  have hfound := h'.followFrom? hw (Nat.le_refl all)
  clear h'
  induction h generalizing all with
  | arrive =>
    obtain ⟨more, -, hmore⟩ := follows_of_followFrom? hfound
    exact ⟨more, hmore⟩
  | stay hdot _ ih =>
    rw [List.cons_append, followFrom?_stay hdot] at hfound
    exact ih hd hfound
  | up _ ih =>
    rw [List.cons_append, followFrom?_up] at hfound
    exact ih hd hfound
  | directory hnode _ ih =>
    rw [List.cons_append, hw.followFrom?_directory hnode] at hfound
    exact ih hd hfound
  | file hnode =>
    rw [hnode] at hd
    cases hd
  | link hnode _ ih =>
    rw [List.cons_append] at hfound
    cases all with
    | zero =>
      rw [hw.followFrom?_link_zero hnode] at hfound
      cases hfound
    | succ fewer =>
      rw [hw.followFrom?_link hnode, ← List.append_assoc] at hfound
      exact ih hd hfound

theorem Follows.of_append_blank (hw : tree.WellFormed)
    (h : tree.Follows used here (segments ++ [[]]) there) :
    tree.Follows used here segments there := by
  have hblank : ∀ {here : Location} {node : FileNode}, tree.nodeAt? (here ++ [[]]) ≠ some node :=
    fun hnode => (hw.isName_of_nodeAt? hnode).ne_nil rfl
  generalize hs : segments ++ [[]] = all at h
  induction h generalizing segments with
  | arrive => simp at hs
  | stay hdot hrest ih =>
    obtain ⟨rfl, hlast⟩ | ⟨front, rfl, rfl⟩ := List.append_eq_cons_iff.1 hs
    · cases hlast
      exact hrest
    · exact .stay hdot (ih rfl)
  | up _ ih =>
    obtain ⟨rfl, hlast⟩ | ⟨front, rfl, rfl⟩ := List.append_eq_cons_iff.1 hs
    · cases hlast
    · exact .up (ih rfl)
  | directory hnode _ ih =>
    obtain ⟨rfl, hlast⟩ | ⟨front, rfl, rfl⟩ := List.append_eq_cons_iff.1 hs
    · cases hlast
      exact absurd hnode hblank
    · exact .directory hnode (ih rfl)
  | file hnode =>
    obtain ⟨rfl, hlast⟩ | ⟨front, rfl, hfront⟩ := List.append_eq_cons_iff.1 hs
    · cases hlast
      exact absurd hnode hblank
    · simp at hfront
  | link hnode _ ih =>
    obtain ⟨rfl, hlast⟩ | ⟨front, rfl, rfl⟩ := List.append_eq_cons_iff.1 hs
    · cases hlast
      exact absurd hnode hblank
    · exact .link hnode (ih (List.append_assoc _ _ _))

/-! ## Changes -/

theorem Follows.isName (hw : tree.WellFormed) (h : tree.Follows used here segments there)
    (hh : ∀ name ∈ here, Path.IsName name) : ∀ name ∈ there, Path.IsName name := by
  induction h with
  | arrive => exact hh
  | stay _ _ ih => exact ih hh
  | up _ ih => exact ih fun name hname => hh name (List.dropLast_subset _ hname)
  | directory hnode _ ih => exact ih (hw.names _ (mem_entries_of_nodeAt? hnode))
  | file hnode => exact hw.names _ (mem_entries_of_nodeAt? hnode)
  | @link _ _ _ _ target _ hnode _ ih =>
    by_cases ht : Path.isAbsolute target
    · exact ih (by simp [ht])
    · exact ih (by simpa [ht] using hh)

theorem isName_of_mem_steps {step : List Char} (hs : ∀ segment ∈ segments, '/' ∉ segment)
    (h : step ∈ steps segments) (hd : step ≠ ['.', '.']) : Path.IsName step := by
  simp only [steps, List.mem_filter, decide_eq_true_eq] at h
  exact ⟨h.2.1, h.2.2, hd, hs step h.1⟩

theorem isName_of_splitEnd? {path : String} {above : List (List Char)}
    (h : splitEnd? path = some (above, name)) :
    Path.IsName name ∧ ∀ step ∈ above, step ≠ ['.', '.'] → Path.IsName step := by
  simp only [splitEnd?, Option.bind_eq_some_iff] at h
  obtain ⟨last, hlast, h⟩ := h
  split at h
  · cases h
  next hdots =>
    cases h
    simp only [not_or] at hdots
    constructor
    · have hslash := Path.slash_notMem_of_mem_segments (List.mem_of_getLast? hlast)
      exact ⟨hdots.1, hdots.2.1, hdots.2.2, hslash⟩
    · intro step
      apply isName_of_mem_steps
      intro segment hsegment
      exact Path.slash_notMem_of_mem_segments (List.dropLast_subset _ hsegment)

namespace WellFormed

theorem empty : ({} : FileTree).WellFormed := ⟨List.nodup_nil, by simp⟩

theorem removeAt (hw : tree.WellFormed) (location : Location) :
    (tree.removeAt location).WellFormed where
  nodup := hw.nodup.sublist (List.filter_sublist.map _)
  names entry hentry := hw.names entry (List.mem_filter.1 hentry).1

theorem putAt (hw : tree.WellFormed) {location : Location} (node : FileNode)
    (hl : ∀ name ∈ location, Path.IsName name) : (tree.putAt location node).WellFormed where
  nodup := by
    have hnew : location ∉ (tree.removeAt location).entries.map Prod.fst := by
      simp [FileTree.removeAt]
    rw [FileTree.putAt, List.map_append, List.map_singleton, ← List.concat_eq_append]
    exact (hw.removeAt location).nodup.concat hnew
  names := by
    intro entry hentry
    rw [FileTree.putAt, List.mem_append, List.mem_singleton] at hentry
    rcases hentry with hentry | rfl
    · exact (hw.removeAt location).names entry hentry
    · exact hl

theorem openFrom? (hw : tree.WellFormed) {steps : List (List Char)} {tree' : FileTree}
    (hh : ∀ name ∈ here, Path.IsName name)
    (hs : ∀ step ∈ steps, step ≠ ['.', '.'] → Path.IsName step)
    (h : tree.openFrom? here steps = some (tree', there)) :
    tree'.WellFormed ∧ ∀ name ∈ there, Path.IsName name := by
  fun_induction FileTree.openFrom? tree here steps with
  | case1 tree here =>
    cases h
    exact ⟨hw, hh⟩
  | case2 tree here rest ih =>
    rw [List.forall_mem_cons] at hs
    exact ih hw (fun name hname => hh name (List.dropLast_subset _ hname)) hs.2 h
  | case3 tree here step rest hdots hnode ih =>
    rw [List.forall_mem_cons] at hs
    have hnew : ∀ name ∈ here ++ [step], Path.IsName name := by
      rw [List.forall_mem_append, List.forall_mem_singleton]
      exact ⟨hh, hs.1 hdots⟩
    exact ih (hw.putAt .directory hnew) hnew hs.2 h
  | case4 tree here step rest hdots hnode ih =>
    rw [List.forall_mem_cons] at hs
    exact ih hw (hw.names _ (mem_entries_of_nodeAt? hnode)) hs.2 h
  | case5 => cases h
  | case6 tree here step rest hdots target hnode there hfound hd ih =>
    rw [List.forall_mem_cons] at hs
    obtain ⟨used, -, hused⟩ := follows_of_followFrom? hfound
    exact ih hw (hused.isName hw hh) hs.2 h
  | case7 => cases h
  | case8 => cases h

theorem put (hw : tree.WellFormed) (path : String) (node : FileNode) :
    (tree.put path node).WellFormed := by
  unfold FileTree.put
  split
  · exact hw
  next above name hend =>
    split
    · exact hw
    next tree' parent hopen =>
      obtain ⟨hname, habove⟩ := isName_of_splitEnd? hend
      obtain ⟨hw', hparent⟩ := hw.openFrom? (by simp) habove hopen
      split
      · exact hw'
      · apply hw'.putAt
        rw [List.forall_mem_append, List.forall_mem_singleton]
        exact ⟨hparent, hname⟩

theorem write (hw : tree.WellFormed) (path : String) (content : List UInt8) :
    (tree.write path content).WellFormed := hw.put path (.file content)

theorem link (hw : tree.WellFormed) (path target : String) : (tree.link path target).WellFormed :=
  hw.put path (.link target.toList)

theorem makeDirectory (hw : tree.WellFormed) (path : String) :
    (tree.makeDirectory path).WellFormed := by
  unfold FileTree.makeDirectory
  split
  next tree' place hopen =>
    refine (hw.openFrom? (by simp) ?_ hopen).1
    intro step
    exact isName_of_mem_steps fun _ => Path.slash_notMem_of_mem_segments
  · exact hw

theorem remove (hw : tree.WellFormed) (path : String) : (tree.remove path).WellFormed := by
  unfold FileTree.remove
  split
  · exact hw
  · split
    · exact hw
    · split
      · exact hw
      · exact hw.removeAt _

end WellFormed

end TemplateBundler.FileTree
