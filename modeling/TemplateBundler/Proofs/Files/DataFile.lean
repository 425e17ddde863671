import Mathlib.Data.List.DropRight
import TemplateBundler.Files.DataFile
import TemplateBundler.Files.Discovery
import TemplateBundler.Proofs.Path.Components

/-!
# DataFile: where the data of a template stands

The path of the data is the path of the template in which the first `.twig` has become `.yml`,
wherever that stands. A mark never reaches over a slash, so it belongs to one name on the way. If no
directory on the way has the mark in its name, it is the name of the template that changes, and the
data stands beside it. Otherwise a directory changes its name, and the data is looked for elsewhere
under the unchanged name of the template.
-/

namespace TemplateBundler

/-! ## The first occurrence of a pattern -/

/-- The pattern stands between `before` and `behind`, and nowhere earlier in the text. -/
structure Text.FirstAt (pattern text before behind : List Char) : Prop where
  eq : text = before ++ pattern ++ behind
  least : ∀ front rest, text = front ++ pattern ++ rest → before.length ≤ front.length

namespace Text.FirstAt

variable {pattern text before behind : List Char}

theorem of_splitAtFirst? (h : splitAtFirst? pattern text = some (before, behind)) :
    FirstAt pattern text before behind := by
  induction text generalizing before with
  | nil =>
    by_cases hp : pattern = []
    · rw [splitAtFirst?, if_pos hp] at h
      cases h
      exact ⟨by simp [hp], fun _ _ _ => Nat.zero_le _⟩
    · rw [splitAtFirst?, if_neg hp] at h
      cases h
  | cons c text ih =>
    rw [splitAtFirst?] at h
    cases hfront : dropFront? pattern (c :: text) with
    | some rest =>
      rw [hfront] at h
      cases h
      exact ⟨dropFront?_eq_some_iff.1 hfront, fun _ _ _ => Nat.zero_le _⟩
    | none =>
      rw [hfront, Option.map_eq_some_iff] at h
      obtain ⟨⟨before', behind'⟩, hsplit, heq⟩ := h
      cases heq
      obtain ⟨htext, hleast⟩ := ih hsplit
      refine ⟨by rw [htext]; rfl, ?_⟩
      intro front rest hother
      cases front with
      | nil =>
        have hprefix : pattern <+: c :: text := ⟨rest, hother.symm⟩
        exact absurd hprefix (dropFront?_eq_none_iff.1 hfront)
      | cons d front =>
        rw [List.cons_append, List.cons_append, List.cons.injEq] at hother
        exact Nat.succ_le_succ (hleast front rest hother.2)

theorem part {front left right rest : List Char}
    (h : FirstAt pattern text (front ++ left) (right ++ rest)) :
    FirstAt pattern (left ++ pattern ++ right) left right := by
  refine ⟨rfl, ?_⟩
  intro front' rest' heq
  have htext : text = (front ++ front') ++ pattern ++ (rest' ++ rest) := by
    rw [h.eq, ← List.append_assoc (front ++ left ++ pattern), List.append_assoc front left,
      List.append_assoc front, heq]
    simp only [List.append_assoc]
  have hle := h.least _ _ htext
  simp only [List.length_append] at hle
  omega

theorem not_infix {front left : List Char} (hp : pattern ≠ [])
    (h : FirstAt pattern text (front ++ left) behind) : ¬ pattern <:+: front := by
  rintro ⟨front', rest', heq⟩
  have htext : text = front' ++ pattern ++ (rest' ++ left ++ pattern ++ behind) := by
    rw [h.eq, ← heq]
    simp only [List.append_assoc]
  have hle := h.least _ _ htext
  have hpos := List.length_pos_iff.2 hp
  have hlen := congrArg List.length heq
  simp only [List.length_append] at hle hlen
  omega

end Text.FirstAt

/-! ## A name within a path -/

namespace Path

theorem segments_parts (text : List Char) :
    ∃ first others, segments text = first :: others ∧ first <+: text ∧
      ∀ segment ∈ others, segment <:+: text := by
  induction text with
  | nil => exact ⟨[], [], rfl, List.prefix_rfl, by simp⟩
  | cons c rest ih =>
    obtain ⟨first, others, hrest, hfirst, hothers⟩ := ih
    have hinfix : ∀ segment ∈ others, segment <:+: c :: rest :=
      fun segment hsegment => List.infix_cons (hothers segment hsegment)
    by_cases hc : c = '/'
    · refine ⟨[], first :: others, by rw [segments, if_pos hc, hrest], List.nil_prefix, ?_⟩
      exact List.forall_mem_cons.2 ⟨List.infix_cons hfirst.isInfix, hinfix⟩
    · refine ⟨c :: first, others, by rw [segments, if_neg hc, hrest], ?_, hinfix⟩
      exact List.prefix_cons_inj c |>.2 hfirst

theorem infix_of_mem_segments {text segment : List Char} (h : segment ∈ segments text) :
    segment <:+: text := by
  obtain ⟨first, others, hsegments, hfirst, hothers⟩ := segments_parts text
  rw [hsegments, List.mem_cons] at h
  rcases h with rfl | h
  · exact hfirst.isInfix
  · exact hothers segment h

theorem isName_of_length {name : List Char} (hlength : 2 < name.length) (hslash : '/' ∉ name) :
    IsName name := by
  refine ⟨?_, ?_, ?_, hslash⟩ <;> rintro rfl <;> simp at hlength

theorem infix_of_mem_components {path value : List Char}
    (h : Component.name value ∈ components path) : value <:+: path := by
  have hsteps : Component.name value ∈ (segments path).filterMap component? := by
    unfold components at h
    split at h
    · simpa using h
    · split at h
      · simpa using h
      · exact h
  obtain ⟨segment, hsegment, hvalue⟩ := List.mem_filterMap.1 hsteps
  unfold component? at hvalue
  split at hvalue
  · cases hvalue
  · split at hvalue
    · cases hvalue
    · cases hvalue
      exact infix_of_mem_segments hsegment

def IsFront (front : List Char) : Prop := front = [] ∨ ∃ path, front = path ++ ['/']

def IsRest (rest : List Char) : Prop := rest = [] ∨ ∃ path, rest = '/' :: path

theorem exists_front (text : List Char) :
    ∃ front left, text = front ++ left ∧ IsFront front ∧ '/' ∉ left := by
  refine ⟨text.rdropWhile (· ≠ '/'), text.rtakeWhile (· ≠ '/'),
    (List.rdropWhile_append_rtakeWhile ..).symm, ?_, ?_⟩
  · by_cases hnil : text.rdropWhile (· ≠ '/') = []
    · exact Or.inl hnil
    · have hlast := List.rdropWhile_last_not (· ≠ '/') text hnil
      right
      refine ⟨(text.rdropWhile (· ≠ '/')).dropLast, ?_⟩
      have := List.dropLast_append_getLast hnil
      simp_all
  · intro hmem
    have := List.mem_rtakeWhile_imp hmem
    simp at this

theorem exists_rest (text : List Char) :
    ∃ right rest, text = right ++ rest ∧ IsRest rest ∧ '/' ∉ right := by
  refine ⟨text.takeWhile (· ≠ '/'), text.dropWhile (· ≠ '/'),
    List.takeWhile_append_dropWhile.symm, ?_, ?_⟩
  · cases h : text.dropWhile (· ≠ '/') with
    | nil => exact Or.inl rfl
    | cons c path =>
      have hhead := List.head?_dropWhile_not (· ≠ '/') text
      rw [h] at hhead
      right
      simp at hhead
      exact ⟨path, by rw [hhead]⟩
  · intro hmem
    have := List.mem_takeWhile_imp hmem
    simp at this

theorem segments_name {rest : List Char} (h : IsRest rest) :
    ∃ inner, ∀ name, '/' ∉ name → segments (name ++ rest) = name :: inner := by
  rcases h with rfl | ⟨path, rfl⟩
  · refine ⟨[], fun name hname => ?_⟩
    rw [List.append_nil, segments_of_slash_notMem hname]
  · refine ⟨segments path, fun name hname => ?_⟩
    rw [segments_append_slash, segments_of_slash_notMem hname]
    rfl

theorem components_around {front rest : List Char} (hfront : IsFront front) (hrest : IsRest rest) :
    ∃ outer inner, (∀ value, Component.name value ∈ outer → value <:+: front) ∧
      ∀ name, IsName name → components (front ++ name ++ rest) = outer ++ .name name :: inner := by
  obtain ⟨behind, hbehind⟩ := segments_name hrest
  have hsteps : ∀ name, IsName name → (segments (name ++ rest)).filterMap component? =
      .name name :: behind.filterMap component? := by
    intro name hname
    rw [hbehind name hname.slash_notMem, List.filterMap_cons, component?_name hname]
  rcases hfront with rfl | ⟨path, rfl⟩
  · refine ⟨[], behind.filterMap component?, by simp, fun name hname => ?_⟩
    obtain ⟨c, tail, rfl⟩ := List.exists_cons_of_ne_nil hname.ne_nil
    have hc : c ≠ '/' := fun heq => hname.slash_notMem (by simp [heq])
    have hrelative : isAbsolute (c :: tail ++ rest) = false := by simp [isAbsolute, hc]
    have hhead : (segments (c :: tail ++ rest)).head? ≠ some ['.'] := by
      rw [hbehind _ hname.slash_notMem, List.head?_cons]
      exact fun heq => hname.ne_dot (Option.some.inj heq)
    rw [List.nil_append, components, hrelative, hsteps _ hname]
    simp only [Bool.false_eq_true, if_false, if_neg hhead, List.nil_append]
  · by_cases hpath : path = []
    · subst hpath
      refine ⟨[.root], behind.filterMap component?, by simp, fun name hname => ?_⟩
      have habsolute : isAbsolute ('/' :: (name ++ rest)) = true := rfl
      have hsegments : segments ('/' :: (name ++ rest)) = [] :: segments (name ++ rest) := by
        rw [segments, if_pos rfl]
      show components ('/' :: (name ++ rest)) = _
      rw [components, habsolute, hsegments, List.filterMap_cons, hsteps name hname]
      rfl
    · refine ⟨components path, behind.filterMap component?, ?_, fun name hname => ?_⟩
      · intro value hvalue
        exact (infix_of_mem_components hvalue).trans (List.prefix_append path ['/']).isInfix
      · rw [List.append_assoc, List.append_assoc, List.singleton_append,
          components_append_slash hpath, hsteps name hname]

end Path

/-! ## The data of a template -/

namespace DataFile

open FileTree (templateMark)
open TemplateBundler.Path (Component components)

def dataMark : List Char := ['.', 'y', 'm', 'l']

/-- On the way, the first name with the mark of templates has the first mark in it replaced. -/
def Renamed (way way' : List Component) : Prop :=
  ∃ outer left right inner, way = outer ++ .name (left ++ templateMark ++ right) :: inner ∧
    way' = outer ++ .name (left ++ dataMark ++ right) :: inner ∧
    Text.FirstAt templateMark (left ++ templateMark ++ right) left right ∧
    ∀ value, Component.name value ∈ outer → ¬ templateMark <:+: value

/-- No directory on the way to the template has the mark of templates in its name. -/
def PlainDirectories (template : String) : Prop :=
  ∀ value, Component.name value ∈ (components template.toList).dropLast →
    ¬ templateMark <:+: value

/-- The data stands in the directory of the template `name`, under that name with its first mark
replaced. -/
def Beside (template : String) (name : List Char) (data : String) : Prop :=
  Path.parent? data.toList = Path.parent? template.toList ∧
    ∃ before behind, Text.FirstAt templateMark name before behind ∧
      Path.fileName? data.toList = some (before ++ dataMark ++ behind)

variable {template data : String} {name : List Char}

theorem path?_eq_some_iff :
    path? template = some data ↔
      ∃ before behind, Text.splitAtFirst? templateMark template.toList = some (before, behind) ∧
        data = String.ofList (before ++ dataMark ++ behind) := by
  have htwig : ".twig".toList = templateMark := by decide
  have hyml : ".yml".toList = dataMark := by decide
  rw [path?, Text.replaceFirst?, htwig, hyml, Option.map_map, Option.map_eq_some_iff]
  constructor
  · rintro ⟨⟨before, behind⟩, hsplit, rfl⟩
    exact ⟨before, behind, hsplit, rfl⟩
  · rintro ⟨before, behind, hsplit, rfl⟩
    exact ⟨(before, behind), hsplit, rfl⟩

/-- A mark belongs to one name: there is no slash in it, and what is left and right of it up to the
next slashes is part of that name. -/
theorem renamed_of_path? (h : path? template = some data) :
    Renamed (components template.toList) (components data.toList) := by
  obtain ⟨before, behind, hsplit, rfl⟩ := path?_eq_some_iff.1 h
  have hfirst := Text.FirstAt.of_splitAtFirst? hsplit
  obtain ⟨front, left, rfl, hfront, hleft⟩ := Path.exists_front before
  obtain ⟨right, rest, rfl, hrest, hright⟩ := Path.exists_rest behind
  obtain ⟨outer, inner, houter, hcomponents⟩ := Path.components_around hfront hrest
  have hname : ∀ mark : List Char, 2 < mark.length → '/' ∉ mark →
      Path.IsName (left ++ mark ++ right) := by
    intro mark hlength hslash
    apply Path.isName_of_length
    · simp only [List.length_append]
      omega
    · simp [hleft, hright, hslash]
  refine ⟨outer, left, right, inner, ?_, ?_, hfirst.part, ?_⟩
  · rw [← hcomponents _ (hname templateMark (by decide) (by decide)), hfirst.eq]
    simp only [List.append_assoc]
  · rw [← hcomponents _ (hname dataMark (by decide) (by decide)), String.toList_ofList]
    simp only [List.append_assoc]
  · intro value hvalue hmark
    exact hfirst.not_infix (by decide) (hmark.trans (houter value hvalue))

theorem fileName?_eq_some_iff {path : List Char} :
    Path.fileName? path = some name ↔ (components path).getLast? = some (.name name) := by
  unfold Path.fileName?
  split
  next value hlast => simp [hlast]
  next hlast =>
    constructor
    · nofun
    · intro h
      exact absurd h (hlast name)

theorem parent?_eq_some {path : List Char} {outer : List Component}
    (h : components path = outer ++ [.name name]) :
    Path.parent? path = some (Path.ofComponents outer) := by
  rw [Path.parent?, h, List.getLast?_concat, List.dropLast_concat]

theorem exists_path? (hname : Path.fileName? template.toList = some name)
    (hmark : templateMark <:+: name) : ∃ data, path? template = some data := by
  have hmem : Component.name name ∈ components template.toList :=
    List.mem_of_getLast? (fileName?_eq_some_iff.1 hname)
  have hoccurs : Text.occurs templateMark template.toList = true :=
    Text.occurs_iff.2 (hmark.trans (Path.infix_of_mem_components hmem))
  obtain ⟨⟨before, behind⟩, hsplit⟩ := Option.isSome_iff_exists.1 hoccurs
  exact ⟨_, path?_eq_some_iff.2 ⟨before, behind, hsplit, rfl⟩⟩

theorem beside_of_last {outer : List Component} {left right : List Char}
    (hway : components template.toList = outer ++ [.name (left ++ templateMark ++ right)])
    (hway' : components data.toList = outer ++ [.name (left ++ dataMark ++ right)])
    (hfirst : Text.FirstAt templateMark (left ++ templateMark ++ right) left right) :
    Beside template (left ++ templateMark ++ right) data := by
  refine ⟨by rw [parent?_eq_some hway, parent?_eq_some hway'], left, right, hfirst, ?_⟩
  rw [fileName?_eq_some_iff, hway', List.getLast?_concat]

theorem not_beside_of_fileName? (h : Path.fileName? data.toList = some name) :
    ¬ Beside template name data := by
  rintro ⟨-, before, behind, hfirst, hname⟩
  have heq : name = before ++ dataMark ++ behind := Option.some.inj (h.symm.trans hname)
  have hlength := congrArg List.length (hfirst.eq.symm.trans heq)
  simp [templateMark, dataMark] at hlength

/-- **The data stands beside the template exactly if no directory bears the mark.** For every
template whose name has the mark of templates there is a path of its data. It leads to the directory
of the template, and to its name with the first mark replaced, if and only if no directory on the way
has the mark in its name. Where one has, the data has the name of the template itself. -/
theorem stands_beside (hname : Path.fileName? template.toList = some name)
    (hmark : templateMark <:+: name) :
    ∃ data, path? template = some data ∧ (Beside template name data ↔ PlainDirectories template) ∧
      (¬ PlainDirectories template → Path.fileName? data.toList = some name) := by
  obtain ⟨data, hdata⟩ := exists_path? hname hmark
  obtain ⟨outer, left, right, inner, hway, hway', hfirst, houter⟩ := renamed_of_path? hdata
  rw [fileName?_eq_some_iff, hway] at hname
  refine ⟨data, hdata, ?_⟩
  rcases List.eq_nil_or_concat' inner with rfl | ⟨inner, last, rfl⟩
  · -- the name of the template is the first that has the mark
    rw [List.getLast?_concat, Option.some.injEq, Component.name.injEq] at hname
    subst hname
    have hplain : PlainDirectories template := by
      rw [PlainDirectories, hway, List.dropLast_concat]
      exact houter
    exact ⟨iff_of_true (beside_of_last hway hway' hfirst) hplain, absurd hplain⟩
  · -- a directory is, so the name of the template stays
    have hmarked : ¬ PlainDirectories template := by
      intro hplain
      rw [PlainDirectories, hway, ← List.cons_append, ← List.append_assoc,
        List.dropLast_concat] at hplain
      exact hplain (left ++ templateMark ++ right) (by simp) ⟨left, right, rfl⟩
    have hlast : some last = some (.name name) := by
      rwa [← List.cons_append, ← List.append_assoc, List.getLast?_concat] at hname
    have hstays : Path.fileName? data.toList = some name := by
      rw [fileName?_eq_some_iff, hway', ← List.cons_append, ← List.append_assoc,
        List.getLast?_concat, hlast]
    exact ⟨iff_of_false (not_beside_of_fileName? hstays) hmarked, fun _ => hstays⟩

/-! ### Pages -/

theorem stands_beside_compoundName :
    Path.fileName? "/p/page.twig.html".toList = some "page.twig.html".toList ∧
    templateMark <:+: "page.twig.html".toList ∧ PlainDirectories "/p/page.twig.html" ∧
    Beside "/p/page.twig.html" "page.twig.html".toList "/p/page.yml.html" := by
  have hname : Path.fileName? "/p/page.twig.html".toList = some "page.twig.html".toList := by decide
  have hmark : templateMark <:+: "page.twig.html".toList := Text.occurs_iff.1 (by decide)
  have hpath : path? "/p/page.twig.html" = some "/p/page.yml.html" := by decide
  have hway : (components "/p/page.twig.html".toList).dropLast = [.root, .name ['p']] := by decide
  have hplain : PlainDirectories "/p/page.twig.html" := by
    intro value hvalue
    rw [hway] at hvalue
    obtain rfl : value = ['p'] := by simpa using hvalue
    decide
  obtain ⟨data, hdata, hbeside, -⟩ := stands_beside hname hmark
  obtain rfl : "/p/page.yml.html" = data := Option.some.inj (hpath.symm.trans hdata)
  exact ⟨hname, hmark, hplain, hbeside.2 hplain⟩

/-- It is the directory that is renamed where its name has the mark. -/
theorem markedDirectory_renamed :
    Path.fileName? "/site.twig/page.twig".toList = some "page.twig".toList ∧
    templateMark <:+: "page.twig".toList ∧
    path? "/site.twig/page.twig" = some "/site.yml/page.twig" ∧
    ¬ Beside "/site.twig/page.twig" "page.twig".toList "/site.yml/page.twig" := by
  refine ⟨by decide, Text.occurs_iff.1 (by decide), by decide, ?_⟩
  rintro ⟨hparent, -⟩
  exact absurd hparent (by decide)

end DataFile

end TemplateBundler
