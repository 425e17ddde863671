import Mathlib.Data.List.Induction
import Mathlib.Data.List.Nodup
import TemplateBundler.Entries

/-!
# Entries: pairs put one after another

Pairs may repeat a key. Put one after another into empty entries, a key keeps its first place and
its last value. This module says what the result is, read by keys, in terms of the pairs.

* `ofPairs_concat`: one more pair;
* `nodup_keys_ofPairs`, `ofPairs_of_nodup`: each key stands once, and then nothing changes;
* `valueOf?_ofPairs`: the last value wins;
* `putAll`, `keys_putAll`: pairs put over entries that are already there;
* `without_ofPairs`, `ofPairs_map`: leaving out keys and changing values, before or after.
-/

namespace TemplateBundler.Entries

variable {α β : Type}

theorem ofPairs_concat (pairs : List (String × α)) (pair : String × α) :
    ofPairs (pairs ++ [pair]) = put pair.1 pair.2 (ofPairs pairs) := by
  rw [ofPairs, List.foldl_append]
  rfl

/-! ## Keys stand once -/

theorem nodup_keys_put {key : String} {value : α} {entries : Entries α}
    (h : (keys entries).Nodup) : (keys (put key value entries)).Nodup := by
  rw [keys_put]
  by_cases hkey : key ∈ keys entries
  · rw [if_pos hkey]
    exact h
  · rw [if_neg hkey]
    refine List.Nodup.append h (List.nodup_singleton key) ?_
    rw [List.disjoint_singleton]
    exact hkey

theorem nodup_keys_ofPairs (pairs : List (String × α)) : (keys (ofPairs pairs)).Nodup := by
  induction pairs using List.reverseRecOn with
  | nil => exact List.nodup_nil
  | append_singleton pairs pair ih =>
    rw [ofPairs_concat]
    exact nodup_keys_put ih

theorem put_of_notMem {key : String} (value : α) {entries : Entries α}
    (h : key ∉ keys entries) : put key value entries = entries ++ [(key, value)] := by
  induction entries with
  | nil => rfl
  | cons pair rest ih =>
    rw [keys, List.map_cons, List.mem_cons, not_or] at h
    rw [put, if_neg (Ne.symm h.1), ih h.2, List.cons_append]

/-- Pairs that repeat no key are entries already. -/
theorem ofPairs_of_nodup {pairs : List (String × α)} (h : (keys pairs).Nodup) :
    ofPairs pairs = pairs := by
  induction pairs using List.reverseRecOn with
  | nil => rfl
  | append_singleton pairs pair ih =>
    rw [keys, List.map_append, List.nodup_append'] at h
    obtain ⟨hpairs, -, hdisjoint⟩ := h
    rw [List.map_singleton, List.disjoint_singleton] at hdisjoint
    rw [ofPairs_concat, ih hpairs, put_of_notMem pair.2 hdisjoint]

@[simp]
theorem ofPairs_ofPairs (pairs : List (String × α)) : ofPairs (ofPairs pairs) = ofPairs pairs :=
  ofPairs_of_nodup (nodup_keys_ofPairs pairs)

/-! ## What stands under a key -/

/-- The last value given to a key wins. -/
theorem valueOf?_ofPairs (key : String) (pairs : List (String × α)) :
    valueOf? key (ofPairs pairs) =
      ((pairs.filter fun pair => pair.1 = key).map Prod.snd).getLast? := by
  induction pairs using List.reverseRecOn with
  | nil => rfl
  | append_singleton pairs pair ih =>
    rw [ofPairs_concat]
    by_cases hkey : pair.1 = key
    · subst hkey
      simp
    · rw [valueOf?_put_of_ne (Ne.symm hkey), ih]
      simp [hkey]

theorem filter_key_of_nodup {key : String} {entries : Entries α} (h : (keys entries).Nodup) :
    (entries.filter fun pair => pair.1 = key) = (valueOf? key entries).toList.map (key, ·) := by
  induction entries with
  | nil => rfl
  | cons pair rest ih =>
    rw [keys, List.map_cons, List.nodup_cons] at h
    obtain ⟨hpair, hrest⟩ := h
    by_cases hkey : pair.1 = key
    · subst hkey
      have hnone : (rest.filter fun other => other.1 = pair.1) = [] := by
        rw [List.filter_eq_nil_iff]
        intro other hother heq
        exact hpair (List.mem_map.2 ⟨other, hother, by simpa using heq⟩)
      rw [List.filter_cons_of_pos (by simp), hnone, valueOf?, if_pos rfl]
      rfl
    · rw [List.filter_cons_of_neg (by simpa using hkey), ih hrest, valueOf?, if_neg hkey]

theorem valueOf?_append (key : String) (entries more : Entries α) :
    valueOf? key (entries ++ more) = (valueOf? key entries).or (valueOf? key more) := by
  induction entries with
  | nil => rfl
  | cons pair rest ih =>
    by_cases hkey : pair.1 = key
    · simp [valueOf?, hkey]
    · simp [valueOf?, hkey, ih]

theorem valueOf?_filter_of_keep {key : String} {keep : String × α → Bool} {entries : Entries α}
    (h : ∀ value, (key, value) ∈ entries → keep (key, value) = true) :
    valueOf? key (entries.filter keep) = valueOf? key entries := by
  induction entries with
  | nil => rfl
  | cons pair rest ih =>
    obtain ⟨k, v⟩ := pair
    have hrest := ih fun value hvalue => h value (List.mem_cons_of_mem _ hvalue)
    by_cases hkey : k = key
    · subst hkey
      rw [List.filter_cons_of_pos (h v List.mem_cons_self), valueOf?, valueOf?, if_pos rfl,
        if_pos rfl]
    · rw [List.filter_cons, valueOf?, if_neg hkey, ← hrest]
      split
      · rw [valueOf?, if_neg hkey]
      · rfl

theorem valueOf?_eq_none_of_notMem {key : String} {entries : Entries α}
    (h : key ∉ keys entries) : valueOf? key entries = none := by
  induction entries with
  | nil => rfl
  | cons pair rest ih =>
    rw [keys, List.map_cons, List.mem_cons, not_or] at h
    rw [valueOf?, if_neg (Ne.symm h.1), ih h.2]

/-! ## Pairs put over entries -/

/-- The pairs put one after another into entries that are already there. -/
def putAll (pairs : List (String × α)) (entries : Entries α) : Entries α :=
  pairs.foldl (fun entries pair => put pair.1 pair.2 entries) entries

section PutAll

variable {pairs : List (String × α)}

theorem putAll_cons (pair : String × α) (pairs : List (String × α)) (entries : Entries α) :
    putAll (pair :: pairs) entries = putAll pairs (put pair.1 pair.2 entries) := rfl

theorem valueOf?_putAll_of_notMem {key : String} (h : key ∉ keys pairs) (entries : Entries α) :
    valueOf? key (putAll pairs entries) = valueOf? key entries := by
  induction pairs generalizing entries with
  | nil => rfl
  | cons pair pairs ih =>
    rw [keys, List.map_cons, List.mem_cons, not_or] at h
    rw [putAll_cons, ih h.2, valueOf?_put_of_ne h.1]

theorem valueOf?_putAll_of_mem {key : String} {value : α} (hkeys : (keys pairs).Nodup)
    (h : (key, value) ∈ pairs) (entries : Entries α) :
    valueOf? key (putAll pairs entries) = some value := by
  induction pairs generalizing entries with
  | nil => cases h
  | cons pair pairs ih =>
    rw [keys, List.map_cons, List.nodup_cons] at hkeys
    rw [putAll_cons]
    rcases List.mem_cons.1 h with rfl | h
    · rw [valueOf?_putAll_of_notMem hkeys.1, valueOf?_put_self]
    · exact ih hkeys.2 h _

/-- A key that is there keeps its place, and the others follow in order. -/
theorem keys_putAll (hkeys : (keys pairs).Nodup) (entries : Entries α) :
    keys (putAll pairs entries) =
      keys entries ++ (keys pairs).filter fun key => key ∉ keys entries := by
  induction pairs generalizing entries with
  | nil => simp [putAll, keys]
  | cons pair pairs ih =>
    rw [keys, List.map_cons, List.nodup_cons] at hkeys
    -- none of the later keys is the one just put, so each of them is new exactly if it was before
    have hlater : ((keys pairs).filter fun key => key ∉ keys (put pair.1 pair.2 entries)) =
        (keys pairs).filter fun key => key ∉ keys entries := by
      apply List.filter_congr
      intro key hkey
      have hne : key ≠ pair.1 := fun heq => hkeys.1 (heq ▸ hkey)
      rw [keys_put]
      split <;> simp [hne]
    have hcons : keys (pair :: pairs) = pair.1 :: keys pairs := rfl
    rw [putAll_cons, ih hkeys.2, hlater, keys_put, hcons]
    by_cases hmem : pair.1 ∈ keys entries
    · rw [if_pos hmem, List.filter_cons_of_neg (by simpa using hmem)]
    · rw [if_neg hmem, List.filter_cons_of_pos (by simpa using hmem), List.append_assoc]
      rfl

theorem nodup_keys_putAll (pairs : List (String × α)) {entries : Entries α}
    (h : (keys entries).Nodup) : (keys (putAll pairs entries)).Nodup := by
  induction pairs generalizing entries with
  | nil => exact h
  | cons pair pairs ih => exact ih (nodup_keys_put h)

end PutAll

/-! ## Leaving out keys -/

section Without

variable {declared : List String}

theorem without_append (pairs more : List (String × α)) :
    without declared (pairs ++ more) = without declared pairs ++ without declared more :=
  List.filter_append pairs more

theorem without_cons_of_mem {key : String} (h : key ∈ declared) (value : α)
    (pairs : List (String × α)) :
    without declared ((key, value) :: pairs) = without declared pairs :=
  List.filter_cons_of_neg (by simpa using h)

theorem without_cons_of_notMem {key : String} (h : key ∉ declared) (value : α)
    (pairs : List (String × α)) :
    without declared ((key, value) :: pairs) = (key, value) :: without declared pairs :=
  List.filter_cons_of_pos (by simpa using h)

@[simp]
theorem without_without (pairs : List (String × α)) :
    without declared (without declared pairs) = without declared pairs := by
  unfold without
  rw [List.filter_filter]
  simp

theorem without_put_of_mem {key : String} (h : key ∈ declared) (value : α) (entries : Entries α) :
    without declared (put key value entries) = without declared entries := by
  induction entries with
  | nil => exact without_cons_of_mem h value []
  | cons pair rest ih =>
    obtain ⟨k, v⟩ := pair
    by_cases hk : k = key
    · subst hk
      rw [put, if_pos rfl, without_cons_of_mem h, without_cons_of_mem h]
    · rw [put, if_neg hk]
      by_cases hdeclared : k ∈ declared
      · rw [without_cons_of_mem hdeclared, without_cons_of_mem hdeclared, ih]
      · rw [without_cons_of_notMem hdeclared, without_cons_of_notMem hdeclared, ih]

theorem without_put_of_notMem {key : String} (h : key ∉ declared) (value : α)
    (entries : Entries α) :
    without declared (put key value entries) = put key value (without declared entries) := by
  induction entries with
  | nil => exact without_cons_of_notMem h value []
  | cons pair rest ih =>
    obtain ⟨k, v⟩ := pair
    by_cases hk : k = key
    · subst hk
      rw [put, if_pos rfl, without_cons_of_notMem h, without_cons_of_notMem h, put, if_pos rfl]
    · rw [put, if_neg hk]
      by_cases hdeclared : k ∈ declared
      · rw [without_cons_of_mem hdeclared, without_cons_of_mem hdeclared, ih]
      · rw [without_cons_of_notMem hdeclared, without_cons_of_notMem hdeclared, ih, put, if_neg hk]

/-- Keys can be left out before or after the pairs are put. -/
theorem without_ofPairs (pairs : List (String × α)) :
    without declared (ofPairs pairs) = ofPairs (without declared pairs) := by
  induction pairs using List.reverseRecOn with
  | nil => rfl
  | append_singleton pairs pair ih =>
    obtain ⟨key, value⟩ := pair
    rw [ofPairs_concat, without_append]
    by_cases hkey : key ∈ declared
    · rw [without_put_of_mem hkey, ih, without_cons_of_mem hkey]
      simp [without]
    · rw [without_put_of_notMem hkey, ih, without_cons_of_notMem hkey]
      simp only [without, List.filter_nil, ofPairs_concat]

end Without

/-! ## Changing values -/

theorem put_map (f : α → β) (key : String) (value : α) (entries : Entries α) :
    (put key value entries).map (fun pair => (pair.1, f pair.2)) =
      put key (f value) (entries.map fun pair => (pair.1, f pair.2)) := by
  induction entries with
  | nil => rfl
  | cons pair rest ih =>
    by_cases hkey : pair.1 = key
    · simp [put, hkey]
    · simp [put, hkey, ih]

theorem ofPairs_map (f : α → β) (pairs : List (String × α)) :
    ofPairs (pairs.map fun pair => (pair.1, f pair.2)) =
      (ofPairs pairs).map fun pair => (pair.1, f pair.2) := by
  induction pairs using List.reverseRecOn with
  | nil => rfl
  | append_singleton pairs pair ih =>
    rw [List.map_append, List.map_singleton, ofPairs_concat, ofPairs_concat, ih, put_map]

end TemplateBundler.Entries
