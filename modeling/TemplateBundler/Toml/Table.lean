import TemplateBundler.Json.Basic
import TemplateBundler.Path.Basic

/-!
# Table: how TOML tables are put together

A table is defined once: by a header, or by dotted keys. A header may pass through tables that are
not defined yet; a later header or a dotted key may then define them.
-/

namespace TemplateBundler.Toml

/-- How a table has come to be: a header has passed through it or defined it, or a dotted key has
defined it. -/
inductive TableOrigin where
  | passed
  | header
  | dotted
deriving DecidableEq

inductive Item where
  | value (json : Json)
  | table (origin : TableOrigin) (entries : List (String × Item))
  /-- An array of tables, the one at hand first. -/
  | tables (current : List (String × Item)) (earlier : List (List (String × Item)))

abbrev Items := List (String × Item)

def lookup? (key : String) : Items → Option Item
  | [] => none
  | (k, item) :: rest => if k = key then some item else lookup? key rest

def replace (key : String) (item : Item) : Items → Items
  | [] => [(key, item)]
  | (k, old) :: rest => if k = key then (k, item) :: rest else (k, old) :: replace key item rest

/-- A new value under a dotted key. The tables on the way are made as needed, and all of them are
defined by the key; one that a header has defined is closed to it. The way may lead through the
latest table of an array, but the value may not be put directly into that table. -/
def putValue? (mayAdd : Bool) (entries : Items) :
    (path : List String) → (value : Json) → Option Items
  | [], _ => none
  | [key], value =>
    if mayAdd then
      match lookup? key entries with
      | some _ => none
      | none => some (entries ++ [(key, .value value)])
    else none
  | key :: rest, value =>
    match lookup? key entries with
    | none =>
      (putValue? true [] rest value).map fun inner => entries ++ [(key, .table .dotted inner)]
    | some (.table .header _) => none
    | some (.table _ inner) =>
      (putValue? true inner rest value).map fun inner =>
        replace key (.table .dotted inner) entries
    | some (.tables current earlier) =>
      (putValue? false current rest value).map fun current =>
        replace key (.tables current earlier) entries
    | some (.value _) => none

def defineTable? (entries : Items) : (path : List String) → Option Items
  | [] => none
  | [key] =>
    match lookup? key entries with
    | none => some (entries ++ [(key, .table .header [])])
    | some (.table .passed inner) => some (replace key (.table .header inner) entries)
    | some _ => none
  | key :: rest =>
    match lookup? key entries with
    | none => (defineTable? [] rest).map fun inner => entries ++ [(key, .table .passed inner)]
    | some (.table origin inner) =>
      (defineTable? inner rest).map fun inner => replace key (.table origin inner) entries
    | some (.tables current earlier) =>
      (defineTable? current rest).map fun current => replace key (.tables current earlier) entries
    | some (.value _) => none

def defineElement? (entries : Items) : (path : List String) → Option Items
  | [] => none
  | [key] =>
    match lookup? key entries with
    | none => some (entries ++ [(key, .tables [] [])])
    | some (.tables current earlier) =>
      some (replace key (.tables [] (current :: earlier)) entries)
    | some _ => none
  | key :: rest =>
    match lookup? key entries with
    | none => (defineElement? [] rest).map fun inner => entries ++ [(key, .table .passed inner)]
    | some (.table origin inner) =>
      (defineElement? inner rest).map fun inner => replace key (.table origin inner) entries
    | some (.tables current earlier) =>
      (defineElement? current rest).map fun current => replace key (.tables current earlier) entries
    | some (.value _) => none

def modifyAt? (change : Items → Option Items) (entries : Items) :
    (path : List String) → Option Items
  | [] => change entries
  | key :: rest =>
    match lookup? key entries with
    | some (.table origin inner) =>
      (modifyAt? change inner rest).map fun inner => replace key (.table origin inner) entries
    | some (.tables current earlier) =>
      (modifyAt? change current rest).map fun current =>
        replace key (.tables current earlier) entries
    | _ => none

/-! ## Values -/

def sortFields (fields : List (String × Json)) : List (String × Json) :=
  fields.mergeSort fun a b => Path.compareChars a.1.toList b.1.toList != .gt

mutual

/-- The JSON value of an item, keys in order at every depth. -/
def Item.toJson : Item → Json
  | .value json => json
  | .table _ entries => .object (sortFields (itemFields entries))
  | .tables current earlier =>
    .array ((tableObjects earlier).reverse ++ [.object (sortFields (itemFields current))])

def itemFields : List (String × Item) → List (String × Json)
  | [] => []
  | (key, item) :: rest => (key, item.toJson) :: itemFields rest

def tableObjects : List (List (String × Item)) → List Json
  | [] => []
  | entries :: rest => .object (sortFields (itemFields entries)) :: tableObjects rest

end

end TemplateBundler.Toml
