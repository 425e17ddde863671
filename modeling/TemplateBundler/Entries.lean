/-!
# Entries: keyed values that remember their order

A key has one value, the one given last, and stands where it was given first.
-/

namespace TemplateBundler

/-- Keyed values in the order in which their keys were first given. -/
abbrev Entries (α : Type) := List (String × α)

namespace Entries

variable {α β : Type}

def valueOf? (key : String) : Entries α → Option α
  | [] => none
  | (k, v) :: rest => if k = key then some v else valueOf? key rest

/-- Stores `value` under `key`: in the key's place if it has one, at the end otherwise. -/
def put (key : String) (value : α) : Entries α → Entries α
  | [] => [(key, value)]
  | (k, v) :: rest => if k = key then (k, value) :: rest else (k, v) :: put key value rest

def ofPairs (pairs : List (String × α)) : Entries α :=
  pairs.foldl (fun entries pair => put pair.1 pair.2 entries) []

def keys (entries : Entries α) : List String := entries.map Prod.fst

def without (declared : List String) (pairs : List (String × α)) : List (String × α) :=
  pairs.filter fun pair => !declared.contains pair.1

/-! ## What `put` does to the view `valueOf?` -/

@[simp]
theorem valueOf?_put_self (key : String) (value : α) (entries : Entries α) :
    valueOf? key (put key value entries) = some value := by
  induction entries with
  | nil => simp [put, valueOf?]
  | cons pair rest ih =>
    by_cases h : pair.1 = key
    · simp [put, valueOf?, h]
    · simp [put, valueOf?, h, ih]

theorem valueOf?_put_of_ne {key other : String} (h : other ≠ key) (value : α)
    (entries : Entries α) :
    valueOf? other (put key value entries) = valueOf? other entries := by
  induction entries with
  | nil => simp [put, valueOf?, Ne.symm h]
  | cons pair rest ih =>
    by_cases hk : pair.1 = key
    · simp [put, valueOf?, hk, Ne.symm h]
    · by_cases ho : pair.1 = other
      · simp [put, valueOf?, ho, h]
      · simp [put, valueOf?, hk, ho, ih]

theorem keys_put (key : String) (value : α) (entries : Entries α) :
    keys (put key value entries) =
      if key ∈ keys entries then keys entries else keys entries ++ [key] := by
  induction entries with
  | nil => simp [put, keys]
  | cons pair rest ih =>
    by_cases h : pair.1 = key
    · simp [put, keys, h]
    · have h' : ¬ key = pair.1 := fun e => h e.symm
      simp only [put, h, keys, if_false, List.map_cons, List.mem_cons, h', false_or] at ih ⊢
      rw [ih]
      split <;> simp_all

end Entries

end TemplateBundler
