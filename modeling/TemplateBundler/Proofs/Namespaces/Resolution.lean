import Mathlib.Data.List.Nodup
import TemplateBundler.Namespaces

/-!
# Resolution: the alias that a path begins with

A path that begins with a form of an alias is resolved through the first such alias of the table.
Two forms at the beginning of one path overlap: one of them begins with the other. So a resolved
path is resolved again only if a target overlaps with a form, and the order of the table matters
only if forms of different aliases overlap.
-/

namespace TemplateBundler.Namespaces

/-! ## Forms -/

def forms (name : String) : List (List Char) := [colonForm name, atForm name]

def Overlap (text text' : List Char) : Prop := text <+: text' ∨ text' <+: text

instance (text text' : List Char) : Decidable (Overlap text text') :=
  inferInstanceAs (Decidable (_ ∨ _))

/-- The path begins with no form of the table's aliases. -/
def Bare (table : Namespaces) (path : List Char) : Prop :=
  ∀ entry ∈ table, ∀ form ∈ forms entry.1, ¬ form <+: path

instance (table : Namespaces) (path : List Char) : Decidable (Bare table path) :=
  inferInstanceAs (Decidable (∀ entry ∈ table, ∀ form ∈ forms entry.1, ¬ form <+: path))

theorem overlap_of_prefixes {path text text' : List Char} (h : text <+: path) (h' : text' <+: path) :
    Overlap text text' :=
  List.prefix_or_prefix_of_prefix h h'

/-- A path is bare of aliases whose forms all lie apart from what it begins with. -/
theorem bare_of_not_overlap {table : Namespaces} {front path : List Char} (hfront : front <+: path)
    (h : ∀ entry ∈ table, ∀ form ∈ forms entry.1, ¬ Overlap form front) : Bare table path := by
  intro entry hentry form hform hprefix
  exact h entry hentry form hform (overlap_of_prefixes hprefix hfront)

/-- The forms of one alias lie apart: `@alias` would have to be a row of `@`, and `alias::` has a
colon where that row goes on. -/
theorem not_atForm_prefix_colonForm (name : String) : ¬ atForm name <+: colonForm name := by
  have hshift : ∀ (chars : List Char) (c : Char), c ≠ ':' →
      ¬ c :: chars <+: chars ++ [':', ':'] := by
    intro chars
    induction chars with
    | nil =>
      intro c hc hprefix
      exact hc (List.cons_prefix_cons.1 hprefix).1
    | cons d chars ih =>
      intro c hc hprefix
      obtain ⟨rfl, hrest⟩ := List.cons_prefix_cons.1 hprefix
      exact ih c hc hrest
  exact hshift name.toList '@' (by decide)

theorem not_colonForm_prefix_atForm (name : String) : ¬ colonForm name <+: atForm name := by
  intro hprefix
  have hlength := hprefix.length_le
  simp only [colonForm, atForm, List.length_append, List.length_cons, List.length_nil] at hlength
  omega

theorem stripForm?_eq_none_iff {name : String} {path : List Char} :
    stripForm? name path = none ↔ ∀ form ∈ forms name, ¬ form <+: path := by
  rw [stripForm?, Option.or_eq_none_iff, Text.dropFront?_eq_none_iff, Text.dropFront?_eq_none_iff]
  simp [forms]

theorem stripForm?_eq_some_iff {name : String} {path rest : List Char} :
    stripForm? name path = some rest ↔ ∃ form ∈ forms name, path = form ++ rest := by
  rw [stripForm?, Option.or_eq_some_iff, Text.dropFront?_eq_some_iff, Text.dropFront?_eq_none_iff,
    Text.dropFront?_eq_some_iff]
  constructor
  · rintro (hcolon | ⟨-, hat⟩)
    · exact ⟨colonForm name, by simp [forms], hcolon⟩
    · exact ⟨atForm name, by simp [forms], hat⟩
  · rintro ⟨form, hform, hpath⟩
    rw [forms, List.mem_pair] at hform
    rcases hform with rfl | rfl
    · exact .inl hpath
    · refine .inr ⟨fun hcolon => ?_, hpath⟩
      rcases overlap_of_prefixes hcolon ⟨rest, hpath.symm⟩ with h | h
      · exact not_colonForm_prefix_atForm name h
      · exact not_atForm_prefix_colonForm name h

/-! ## The first alias that a path begins with -/

theorem resolveChars_append_of_bare {before : Namespaces} {path : List Char}
    (h : Bare before path) (after : Namespaces) :
    resolveChars (before ++ after) path = resolveChars after path := by
  induction before with
  | nil => rfl
  | cons entry before ih =>
    obtain ⟨hentry, hbefore⟩ := List.forall_mem_cons.1 h
    rw [List.cons_append, resolveChars, stripForm?_eq_none_iff.2 hentry]
    exact ih hbefore

theorem resolveChars_of_bare {table : Namespaces} {path : List Char} (h : Bare table path) :
    resolveChars table path = path := by
  have hskip := resolveChars_append_of_bare h []
  rwa [List.append_nil] at hskip

theorem resolveChars_of_form {before after : Namespaces} {name target : String}
    {form rest : List Char} (hform : form ∈ forms name) (hbefore : Bare before (form ++ rest)) :
    resolveChars (before ++ (name, target) :: after) (form ++ rest) =
      attach target.toList rest := by
  have hstrip : stripForm? name (form ++ rest) = some rest :=
    stripForm?_eq_some_iff.2 ⟨form, hform, rfl⟩
  rw [resolveChars_append_of_bare hbefore, resolveChars, hstrip]

theorem resolveChars_cases (table : Namespaces) (path : List Char) :
    (Bare table path ∧ resolveChars table path = path) ∨
    ∃ before name target after form rest, table = before ++ (name, target) :: after ∧
      form ∈ forms name ∧ path = form ++ rest ∧ Bare before path ∧
      resolveChars table path = attach target.toList rest := by
  induction table with
  | nil => exact .inl ⟨List.forall_mem_nil _, rfl⟩
  | cons entry table ih =>
    obtain ⟨name, target⟩ := entry
    cases hstrip : stripForm? name path with
    | some rest =>
      obtain ⟨form, hform, rfl⟩ := stripForm?_eq_some_iff.1 hstrip
      have hbare : Bare [] (form ++ rest) := List.forall_mem_nil _
      exact .inr ⟨[], name, target, table, form, rest, rfl, hform, rfl, hbare,
        resolveChars_of_form hform hbare⟩
    | none =>
      have hname : Bare [(name, target)] path :=
        List.forall_mem_singleton.2 (stripForm?_eq_none_iff.1 hstrip)
      have hskip := resolveChars_append_of_bare hname table
      rw [List.singleton_append] at hskip
      rw [hskip]
      rcases ih with ⟨hbare, hpath⟩ | ⟨before, other, goal, after, form, rest, rfl, hform, hpath,
        hbefore, hresolve⟩
      · exact .inl ⟨List.forall_mem_cons.2 ⟨List.forall_mem_singleton.1 hname, hbare⟩, hpath⟩
      · exact .inr ⟨(name, target) :: before, other, goal, after, form, rest, rfl, hform, hpath,
          List.forall_mem_cons.2 ⟨List.forall_mem_singleton.1 hname, hbefore⟩, hresolve⟩

/-! ## Resolving a resolved path -/

theorem prefix_attach (target rest : List Char) : target <+: attach target rest := by
  unfold attach
  split_ifs
  · exact List.prefix_append target _
  · exact List.prefix_append target _

/-- **A resolved path begins with no alias, unless a target collides with one**: then resolving it
again changes nothing. A collision is a target that overlaps with a form. -/
theorem resolve_twice (namespaces : Namespaces) (path : String) :
    (Bare namespaces (namespaces.resolve path).toList ∧
      namespaces.resolve (namespaces.resolve path) = namespaces.resolve path) ∨
    ∃ entry ∈ namespaces, ∃ other ∈ namespaces, ∃ form ∈ forms other.1,
      Overlap entry.2.toList form := by
  have hbare : Bare namespaces (namespaces.resolve path).toList ∨
      ∃ entry ∈ namespaces, ∃ other ∈ namespaces, ∃ form ∈ forms other.1,
        Overlap entry.2.toList form := by
    rw [resolve, String.toList_ofList]
    rcases resolveChars_cases namespaces path.toList with ⟨hbare, hpath⟩ |
      ⟨before, name, target, after, form, rest, htable, -, -, -, hresolve⟩
    · rw [hpath]
      exact .inl hbare
    · rw [hresolve, or_iff_not_imp_right]
      intro hapart other hother form hform hprefix
      have hentry : (name, target) ∈ namespaces := by simp [htable]
      have htarget := prefix_attach target.toList rest
      exact hapart ⟨_, hentry, other, hother, form, hform, overlap_of_prefixes htarget hprefix⟩
  refine hbare.imp_left fun h => ⟨h, ?_⟩
  rw [resolve, resolveChars_of_bare h, String.ofList_toList]

/-- A target that begins with the alias it stands for is put in its own place again. -/
example : resolve [("a", "@a/b/")] "@a/x" = "@a/b/x" ∧
    resolve [("a", "@a/b/")] "@a/b/x" = "@a/b/b/x" := by decide

/-! ## The order of a table -/

/-- No form of an alias is the beginning of a form of another one. -/
def Apart (table : Namespaces) : Prop :=
  ∀ entry ∈ table, ∀ other ∈ table, entry.1 ≠ other.1 →
    ∀ form ∈ forms entry.1, ∀ form' ∈ forms other.1, ¬ form <+: form'

instance (table : Namespaces) : Decidable (Apart table) :=
  inferInstanceAs (Decidable (∀ entry ∈ table, ∀ other ∈ table, entry.1 ≠ other.1 →
    ∀ form ∈ forms entry.1, ∀ form' ∈ forms other.1, ¬ form <+: form'))

/-- Where forms lie apart, an alias is replaced wherever it stands in the table. -/
theorem resolveChars_of_mem {table : Namespaces} {name target : String} {form : List Char}
    (hkeys : (Entries.keys table).Nodup) (hapart : Apart table) (hentry : (name, target) ∈ table)
    (hform : form ∈ forms name) (rest : List Char) :
    resolveChars table (form ++ rest) = attach target.toList rest := by
  obtain ⟨before, after, rfl⟩ := List.append_of_mem hentry
  refine resolveChars_of_form hform (bare_of_not_overlap (List.prefix_append form rest) ?_)
  intro other hother form' hform'
  have hmem : other ∈ before ++ (name, target) :: after := List.mem_append_left _ hother
  have hne : other.1 ≠ name := by
    rw [Entries.keys, List.map_append, List.nodup_append] at hkeys
    exact hkeys.2.2 other.1 (List.mem_map_of_mem hother) name (by simp)
  rintro (h | h)
  · exact hapart other hmem _ hentry hne form' hform' form hform h
  · exact hapart _ hentry other hmem hne.symm form hform form' hform' h

/-- **The order of a table does not matter where the forms of different aliases lie apart.** Each
alias stands once, as in every table. Then all orders of the table resolve a path alike; a path that
begins with a form is resolved through that alias, and any other path stays as it is. -/
theorem resolve_unordered {namespaces : Namespaces} (hkeys : (Entries.keys namespaces).Nodup)
    (hapart : Apart namespaces) :
    (∀ permuted : Namespaces, namespaces.Perm permuted →
      ∀ path, permuted.resolve path = namespaces.resolve path) ∧
    (∀ entry ∈ namespaces, ∀ form ∈ forms entry.1, ∀ rest,
      namespaces.resolve (String.ofList (form ++ rest)) =
        String.ofList (attach entry.2.toList rest)) ∧
    (∀ path : String, Bare namespaces path.toList → namespaces.resolve path = path) := by
  refine ⟨?_, ?_, ?_⟩
  · intro permuted hperm path
    have hkeys' : (Entries.keys permuted).Nodup := (hperm.map Prod.fst).nodup_iff.1 hkeys
    have hapart' : Apart permuted := by
      intro entry hentry other hother
      exact hapart entry (hperm.mem_iff.2 hentry) other (hperm.mem_iff.2 hother)
    rw [resolve, resolve]
    rcases resolveChars_cases namespaces path.toList with ⟨hbare, hpath⟩ |
      ⟨before, name, target, after, form, rest, htable, hform, hpath, -, hresolve⟩
    · have hbare' : Bare permuted path.toList :=
        fun entry hentry => hbare entry (hperm.mem_iff.2 hentry)
      rw [hpath, resolveChars_of_bare hbare']
    · have hentry : (name, target) ∈ permuted := hperm.mem_iff.1 (by simp [htable])
      rw [hresolve, hpath, resolveChars_of_mem hkeys' hapart' hentry hform]
  · intro entry hentry form hform rest
    rw [resolve, String.toList_ofList, resolveChars_of_mem hkeys hapart hentry hform]
  · intro path hbare
    rw [resolve, resolveChars_of_bare hbare, String.ofList_toList]

def lookalikes : Namespaces := [("b", "/b/"), ("a::b", "/ab/"), ("@", "/at")]

theorem resolve_unordered_lookalikes :
    (Entries.keys lookalikes).Nodup ∧ Apart lookalikes ∧ lookalikes.Perm lookalikes.reverse ∧
    resolve lookalikes.reverse "@@b/x" = resolve lookalikes "@@b/x" ∧
    resolve lookalikes "a::b::x" = "/ab/x" ∧
    Bare lookalikes "a/@b/x".toList ∧ resolve lookalikes "a/@b/x" = "a/@b/x" := by
  have hkeys : (Entries.keys lookalikes).Nodup := by decide
  have hapart : Apart lookalikes := by decide
  have hperm : lookalikes.Perm lookalikes.reverse := (List.reverse_perm lookalikes).symm
  have hbare : Bare lookalikes "a/@b/x".toList := by decide
  obtain ⟨horder, hform, hother⟩ := resolve_unordered hkeys hapart
  have hcolon := hform ("a::b", "/ab/") (by decide) (colonForm "a::b") (by decide) "x".toList
  have hpath : String.ofList (colonForm "a::b" ++ "x".toList) = "a::b::x" := by decide
  have htarget : String.ofList (attach "/ab/".toList "x".toList) = "/ab/x" := by decide
  rw [hpath, htarget] at hcolon
  exact ⟨hkeys, hapart, hperm, horder _ hperm _, hcolon, hbare, hother _ hbare⟩

end TemplateBundler.Namespaces
