import Mathlib.Data.List.Permutation
import TemplateBundler.Options.JsonText
import TemplateBundler.Proofs.Template.Fields

/-!
# Merging: the options of a compiled template

The options that a compiled template hands to the renderer are those that the host has written, with
four fields put over them. What the host has written passes through a reader, which takes the
namespaces out of it, and a writer, which puts them back. This module says that nothing is lost on
the way, nothing is added but the four fields, and where each field stands.
-/

namespace TemplateBundler.LoaderOptions

open Json (Draft)
open Entries (keys valueOf? putAll without)

/-- The value of the field `twigOptions` in which each key stands once, or the empty object where
there is no such field. -/
def rendererObject? (fields : List (Option String × Draft)) : Option Json :=
  match fields.find? fun field => field.1 = some "twigOptions" with
  | none => some (.object [])
  | some field => (field.2.toJson? (Json.maxDepth - 1)).map Json.collapse

def isEmptyTable : String × Json → Bool
  | ("namespaces", .object []) => true
  | _ => false

def withoutEmptyTable (given : Entries Json) : Entries Json :=
  given.filter fun entry => !isEmptyTable entry

def overrides (id : String) (tokens : List Token) : Entries Json :=
  [("id", .string id), ("data", .array (Token.listToJson tokens)),
    ("allowInlineIncludes", .bool true), ("rethrow", .bool true)]

def overridden : List String := ["id", "data", "allowInlineIncludes", "rethrow"]

/-- `merged` holds what is `given`, an empty table of namespaces apart, with the four fields of a
compiled template put over it. -/
structure Merged (given : Entries Json) (id : String) (tokens : List Token)
    (merged : Entries Json) : Prop where
  nodup : (keys merged).Nodup
  mem_keys : ∀ key, key ∈ keys merged ↔ key ∈ keys (withoutEmptyTable given) ∨ key ∈ overridden
  id_value : valueOf? "id" merged = some (.string id)
  data_value : valueOf? "data" merged = some (.array (Token.listToJson tokens))
  inline_value : valueOf? "allowInlineIncludes" merged = some (.bool true)
  rethrow_value : valueOf? "rethrow" merged = some (.bool true)
  unchanged : ∀ key ∉ overridden, valueOf? key merged = valueOf? key (withoutEmptyTable given)
  order : keys merged =
    ((keys (withoutEmptyTable given)).filter fun key => key = "namespaces") ++
      ((keys (withoutEmptyTable given)).filter fun key => key ≠ "namespaces") ++
      overridden.filter fun key => key ∉ keys (withoutEmptyTable given)

variable {options : LoaderOptions} {pairs : List (String × Json)} {given : Entries Json}

/-! ## Reading -/

theorem rendererDrafts?_eq {fields : List (Option String × Draft)} {drafts : List Draft}
    (h : rendererDrafts? fields = some drafts) :
    drafts = (fields.filter fun field => field.1 = some "twigOptions").map Prod.snd := by
  induction fields generalizing drafts with
  | nil =>
    cases h
    rfl
  | cons field fields ih =>
    obtain ⟨key?, draft⟩ := field
    cases key? with
    | none => cases h
    | some key =>
      rw [rendererDrafts?, Option.map_eq_some_iff] at h
      obtain ⟨more, hmore, rfl⟩ := h
      rw [ih hmore, List.filter_cons]
      by_cases hkey : key = "twigOptions"
      · simp [hkey]
      · simp [hkey]

theorem exists_pairs {text : String} {fields : List (Option String × Draft)}
    (htext : Draft.read? text.toList = some (.object fields)) (h : parseJson text = .ok options) :
    ∃ pairs, rendererObject? fields = some (Json.collapse (.object pairs)) ∧
      ofRendererPairs? pairs = some options := by
  have hdraft : (rendererDrafts? fields).bind ofAtMostOne? = some options := by
    rw [parseJson, htext, Option.bind_some, ofDraft?] at h
    split at h
    next found heq =>
      cases h
      exact heq
    next => cases h
  obtain ⟨drafts, hdrafts, hone⟩ := Option.bind_eq_some_iff.1 hdraft
  have hfind : (fields.find? fun field => field.1 = some "twigOptions").map Prod.snd =
      drafts.head? := by
    rw [rendererDrafts?_eq hdrafts, List.head?_map, List.head?_filter]
  unfold ofAtMostOne? at hone
  rw [rendererObject?]
  split at hone
  next =>
    cases hone
    rw [List.head?_nil, Option.map_eq_none_iff] at hfind
    rw [hfind]
    exact ⟨[], rfl, rfl⟩
  next draft =>
    rw [List.head?_cons, Option.map_eq_some_iff] at hfind
    obtain ⟨field, hfound, rfl⟩ := hfind
    rw [hfound]
    unfold ofRendererDraft? at hone
    split at hone
    next pairs hvalue => exact ⟨pairs, congrArg (Option.map Json.collapse) hvalue, hone⟩
    next => cases hone
  next => cases hone

/-! ## Namespaces -/

theorem collapseFields_strings {entries : List (String × Json)} {targets : List (String × String)}
    (h : entries.mapM namespaceOfPair? = some targets) :
    Json.collapseFields entries = targets.map fun target => (target.1, .string target.2) := by
  induction entries generalizing targets with
  | nil =>
    cases h
    rfl
  | cons entry entries ih =>
    obtain ⟨key, value⟩ := entry
    rw [List.mapM_cons] at h
    obtain ⟨target, htarget, h⟩ := Option.bind_eq_some_iff.1 h
    obtain ⟨rest, hrest, h⟩ := Option.bind_eq_some_iff.1 h
    cases h
    cases value with
    | string text =>
      cases htarget
      rw [Json.collapseFields, ih hrest]
      rfl
    | null | bool _ | number _ | array _ | object _ => cases htarget

/-- A table of namespaces is what the object says in which each alias stands once. -/
theorem collapse_namespaces {entries : List (String × Json)} {table : Namespaces}
    (h : namespacesOfPairs? entries = some table) :
    Json.collapse (.object entries) = namespacesJson table := by
  obtain ⟨targets, htargets, rfl⟩ := Option.map_eq_some_iff.1 h
  rw [Json.collapse, collapseFields_strings htargets,
    Entries.ofPairs_map (fun target => Json.string target)]
  rfl

theorem valueOf?_collapse (key : String) (pairs : List (String × Json)) :
    valueOf? key (Entries.ofPairs (Json.collapseFields pairs)) =
      ((Field.given key pairs).map Json.collapse).getLast? := by
  rw [Entries.valueOf?_ofPairs, ← Field.given_collapseFields]
  rfl

/-- The namespaces that have been read are those that are written, or there are none. -/
theorem valueOf?_namespaces {table : Namespaces} (h : namespacesField? pairs = some table) :
    valueOf? "namespaces" (Entries.ofPairs (Json.collapseFields pairs)) =
        some (namespacesJson table) ∨
      valueOf? "namespaces" (Entries.ofPairs (Json.collapseFields pairs)) = none ∧ table = [] := by
  rw [valueOf?_collapse]
  unfold namespacesField? at h
  split at h
  next hgiven =>
    cases h
    exact Or.inr ⟨by rw [hgiven]; rfl, rfl⟩
  next entries hgiven =>
    left
    rw [hgiven, List.map_singleton, collapse_namespaces h]
    rfl
  next => cases h

/-! ## Writing -/

theorem isEmptyTable_of_ne {entry : String × Json} (h : entry.1 ≠ "namespaces") :
    isEmptyTable entry = false := by
  unfold isEmptyTable
  split
  · exact absurd rfl h
  · rfl

theorem isEmptyTable_namespaces (table : Namespaces) :
    isEmptyTable ("namespaces", namespacesJson table) = table.isEmpty := by
  cases table with
  | nil => rfl
  | cons entry table => rfl

theorem filter_ne_withoutEmptyTable (given : Entries Json) :
    ((withoutEmptyTable given).filter fun entry => entry.1 ≠ "namespaces") =
      without ["namespaces"] given := by
  rw [withoutEmptyTable, List.filter_filter, without]
  apply List.filter_congr
  intro entry _
  by_cases hkey : entry.1 = "namespaces"
  · simp [hkey]
  · simp [hkey, isEmptyTable_of_ne hkey]

theorem filter_eq_withoutEmptyTable (hnodup : (keys given).Nodup) :
    ((withoutEmptyTable given).filter fun entry => entry.1 = "namespaces") =
      ((valueOf? "namespaces" given).toList.map ("namespaces", ·)).filter fun entry =>
        !isEmptyTable entry := by
  rw [withoutEmptyTable, List.filter_filter, ← Entries.filter_key_of_nodup hnodup,
    List.filter_filter]
  apply List.filter_congr
  intro entry _
  rw [Bool.and_comm]

/-- Reading and writing only moves the namespaces to the front, and drops an empty table. -/
theorem rendererFields_eq (h : ofRendererPairs? pairs = some options)
    (hgiven : given = Entries.ofPairs (Json.collapseFields pairs)) :
    options.rendererFields =
      ((withoutEmptyTable given).filter fun entry => entry.1 = "namespaces") ++
        (withoutEmptyTable given).filter fun entry => entry.1 ≠ "namespaces" := by
  obtain ⟨table, htable, rfl⟩ := Option.map_eq_some_iff.1 h
  have hnodup : (keys given).Nodup := hgiven ▸ Entries.nodup_keys_ofPairs _
  have hrest : Field.others ["namespaces"] pairs = without ["namespaces"] given := by
    rw [hgiven, Field.others_eq_without]
  rw [filter_ne_withoutEmptyTable, filter_eq_withoutEmptyTable hnodup, rendererFields, hrest]
  have hvalue := valueOf?_namespaces htable
  rw [← hgiven] at hvalue
  rcases hvalue with hvalue | ⟨hvalue, rfl⟩
  · rw [hvalue, Option.toList_some, List.map_singleton, List.filter_cons,
      isEmptyTable_namespaces, List.filter_nil]
    cases table <;> rfl
  · rw [hvalue]
    rfl

/-! ## The fields put over them -/

theorem instantiation_eq_putAll (options : LoaderOptions) (id : String) (tokens : List Token) :
    options.instantiation id tokens = putAll (overrides id tokens) options.rendererFields := rfl

theorem nodup_overridden : overridden.Nodup := by decide

theorem keys_overrides (id : String) (tokens : List Token) :
    keys (overrides id tokens) = overridden := rfl

theorem valueOf?_front (front key : String) (entries : Entries Json) :
    valueOf? key ((entries.filter fun entry => entry.1 = front) ++
      entries.filter fun entry => entry.1 ≠ front) = valueOf? key entries := by
  rw [Entries.valueOf?_append]
  by_cases hkey : key = front
  · have hnone : valueOf? key (entries.filter fun entry => entry.1 ≠ front) = none := by
      apply Entries.valueOf?_eq_none_of_notMem
      simp [keys, hkey]
    rw [hnone, Option.or_none, Entries.valueOf?_filter_of_keep]
    simp [hkey]
  · have hnone : valueOf? key (entries.filter fun entry => entry.1 = front) = none := by
      apply Entries.valueOf?_eq_none_of_notMem
      simp [keys, hkey]
    rw [hnone, Option.none_or, Entries.valueOf?_filter_of_keep]
    simp [hkey]

theorem keys_filter (keep : String → Bool) (entries : Entries Json) :
    keys (entries.filter fun entry => keep entry.1) = (keys entries).filter keep := by
  rw [keys, keys, List.filter_map]
  rfl

theorem keys_rendererFields (h : ofRendererPairs? pairs = some options)
    (hgiven : given = Entries.ofPairs (Json.collapseFields pairs)) :
    keys options.rendererFields =
      ((keys (withoutEmptyTable given)).filter fun key => key = "namespaces") ++
        (keys (withoutEmptyTable given)).filter fun key => key ≠ "namespaces" := by
  rw [rendererFields_eq h hgiven, ← keys_filter, ← keys_filter]
  exact List.map_append

theorem mem_keys_rendererFields (h : ofRendererPairs? pairs = some options)
    (hgiven : given = Entries.ofPairs (Json.collapseFields pairs)) (key : String) :
    key ∈ keys options.rendererFields ↔ key ∈ keys (withoutEmptyTable given) := by
  rw [keys_rendererFields h hgiven, List.mem_append, List.mem_filter, List.mem_filter,
    ← and_or_left]
  by_cases hkey : key = "namespaces" <;> simp [hkey]

theorem nodup_keys_rendererFields (h : ofRendererPairs? pairs = some options)
    (hgiven : given = Entries.ofPairs (Json.collapseFields pairs)) :
    (keys options.rendererFields).Nodup := by
  have hall : (keys given).Nodup := hgiven ▸ Entries.nodup_keys_ofPairs _
  have hnodup : (keys (withoutEmptyTable given)).Nodup :=
    hall.sublist (List.filter_sublist.map Prod.fst)
  rw [keys_rendererFields h hgiven]
  apply List.Nodup.append (hnodup.filter _) (hnodup.filter _)
  intro key hfront hrest
  have heq := (List.mem_filter.1 hfront).2
  have hne := (List.mem_filter.1 hrest).2
  simp only [decide_eq_true_eq] at heq hne
  exact hne heq

theorem merged_of_pairs (h : ofRendererPairs? pairs = some options)
    (hgiven : given = Entries.ofPairs (Json.collapseFields pairs)) (id : String)
    (tokens : List Token) : Merged given id tokens (options.instantiation id tokens) := by
  have hover : (keys (overrides id tokens)).Nodup := nodup_overridden
  have hmem := mem_keys_rendererFields h hgiven
  have hput : ∀ {key value}, (key, value) ∈ overrides id tokens →
      valueOf? key (options.instantiation id tokens) = some value := fun hentry =>
    Entries.valueOf?_putAll_of_mem hover hentry options.rendererFields
  have horder : keys (options.instantiation id tokens) =
      keys options.rendererFields ++
        overridden.filter fun key => key ∉ keys (withoutEmptyTable given) := by
    rw [instantiation_eq_putAll, Entries.keys_putAll hover, keys_overrides]
    simp only [hmem]
  constructor
  case nodup =>
    rw [instantiation_eq_putAll]
    exact Entries.nodup_keys_putAll _ (nodup_keys_rendererFields h hgiven)
  case mem_keys =>
    intro key
    rw [horder, List.mem_append, hmem, List.mem_filter]
    by_cases hkey : key ∈ keys (withoutEmptyTable given) <;> simp [hkey]
  case id_value => exact hput (by simp [overrides])
  case data_value => exact hput (by simp [overrides])
  case inline_value => exact hput (by simp [overrides])
  case rethrow_value => exact hput (by simp [overrides])
  case unchanged =>
    intro key hkey
    rw [instantiation_eq_putAll, Entries.valueOf?_putAll_of_notMem hkey,
      rendererFields_eq h hgiven, valueOf?_front]
  case order => rw [horder, keys_rendererFields h hgiven]

/-- **Options are merged without loss or leak.** Where the parser accepts an object of loader
options, the renderer options in it are an object, and the options of a compiled template have its
fields and the four fields that the compiler sets, and no others. The four have the values that the
compiler gives them, whatever was written. The namespaces are those that were written, in their
order, and they stand first unless there are none. All other fields have the value that was written
and stand in the order in which they were written, the four fields among them if they were; those
that were not follow at the end. -/
theorem instantiation_merged {text : String} {fields : List (Option String × Draft)}
    (htext : Draft.read? text.toList = some (.object fields)) (h : parseJson text = .ok options)
    (id : String) (tokens : List Token) :
    ∃ given, rendererObject? fields = some (.object given) ∧
      (∀ value, valueOf? "namespaces" given = some value →
        value = namespacesJson options.namespaces) ∧
      Merged given id tokens (options.instantiation id tokens) := by
  obtain ⟨pairs, hobject, hpairs⟩ := exists_pairs htext h
  have hmerged := merged_of_pairs hpairs rfl id tokens
  refine ⟨Entries.ofPairs (Json.collapseFields pairs), hobject, ?_, hmerged⟩
  intro value hvalue
  obtain ⟨table, htable, rfl⟩ := Option.map_eq_some_iff.1 hpairs
  rcases valueOf?_namespaces htable with hwritten | ⟨hnone, -⟩
  · rw [hwritten] at hvalue
    exact (Option.some.inj hvalue).symm
  · rw [hnone] at hvalue
    cases hvalue

/-! ### Options that set a flag

The text sets `rethrow` before it names its namespaces, and says twice what `a` is. -/

def flagText : String :=
  "\x7b\"twigOptions\":\x7b\"rethrow\":null,\"a\":null,\"namespaces\":\x7b\"t\":\"/x/\"\x7d," ++
  "\"a\":true\x7d\x7d"

def flagFields : List (Option String × Draft) :=
  [(some "twigOptions", .object [(some "rethrow", .null), (some "a", .null),
    (some "namespaces", .object [(some "t", .string (some "/x/"))]), (some "a", .bool true)])]

def flagOptions : LoaderOptions where
  namespaces := [("t", "/x/")]
  passthrough := [("rethrow", .null), ("a", .bool true)]

theorem read?_flagText : Draft.read? flagText.toList = some (.object flagFields) := by
  cbv

theorem parseJson_flagText : parseJson flagText = .ok flagOptions := by
  rw [parseJson, read?_flagText]
  cbv

/-- The flag is true in its place, and the later value of `a` stands in the place of the first. -/
theorem instantiation_merged_flagText :
    Draft.read? flagText.toList = some (.object flagFields) ∧
    parseJson flagText = .ok flagOptions ∧
    keys (flagOptions.instantiation "p" []) =
      ["namespaces", "rethrow", "a", "id", "data", "allowInlineIncludes"] ∧
    valueOf? "rethrow" (flagOptions.instantiation "p" []) = some (.bool true) ∧
    valueOf? "a" (flagOptions.instantiation "p" []) = some (.bool true) := by
  obtain ⟨given, -, -, hmerged⟩ := instantiation_merged read?_flagText parseJson_flagText "p" []
  exact ⟨read?_flagText, parseJson_flagText, by decide, hmerged.rethrow_value, rfl⟩

end TemplateBundler.LoaderOptions
