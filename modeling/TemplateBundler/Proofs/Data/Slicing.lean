import TemplateBundler.Data.Access

/-!
# Slicing: which elements a slice keeps

A slice keeps the elements between its bounds, in order. A bound that is negative counts from the
end, and a bound beyond an end stands for that end. Computed with words of 64 bits, the bounds of a
list whose length is a word never overflow and always lie in the list.

* `Slice.clamped`, `Slice.Keeps`, `Slice.kept`: the elements between the bounds;
* `Slice.cut_eq_kept`: a slice keeps exactly those;
* `Slice.wordBounds?`, `Slice.wordCut?`: the same computed with words, where overflow and an index
  out of range have no result;
* `Slice.wordCut?_eq`: they always have a result, and the same one;
* `Json.slice?_exact`: slices of arrays and strings.
-/

namespace TemplateBundler

theorem Integer.maxInt64_eq : Integer.maxInt64 = 9223372036854775807 := rfl

namespace Slice

variable {α : Type} {length : Nat}

/-! ## The elements between the bounds -/

/-- Where a bound lies among `length` elements: a negative bound is increased by the length, and
what is still beyond an end is brought to it. -/
def clamped (length : Nat) (bound : Int) : Int :=
  max 0 (min (if bound < 0 then bound + length else bound) length)

/-- The index lies between the bounds. A missing start is zero, and a missing stop the length. -/
def Keeps (length : Nat) (start stop : Option Int) (index : Nat) : Prop :=
  clamped length (start.getD 0) ≤ index ∧ index < clamped length (stop.getD length)

instance (start stop : Option Int) (index : Nat) : Decidable (Keeps length start stop index) :=
  inferInstanceAs (Decidable (_ ∧ _))

def kept (items : List α) (start stop : Option Int) : List α :=
  (items.zipIdx.filter fun entry => Keeps items.length start stop entry.2).map Prod.fst

theorem position_eq (length : Nat) (bound : Int) :
    (position length bound : Int) = clamped length bound := by
  simp only [position, clamped]
  split <;> omega

theorem position_le (length : Nat) (bound : Int) : position length bound ≤ length := by
  have h := position_eq length bound
  unfold clamped at h
  omega

theorem bounds_ordered (length : Nat) (start stop : Option Int) :
    (bounds length start stop).1 ≤ (bounds length start stop).2 ∧
      (bounds length start stop).2 ≤ length := by
  have hstart := position_le length (start.getD 0)
  have hstop := position_le length (stop.getD length)
  simp only [bounds]
  omega

theorem keeps_iff {start stop : Option Int} {index : Nat} :
    Keeps length start stop index ↔
      (bounds length start stop).1 ≤ index ∧ index < (bounds length start stop).2 := by
  have hstart := position_eq length (start.getD 0)
  have hstop := position_eq length (stop.getD length)
  simp only [Keeps, bounds]
  omega

theorem map_filter_zipIdx (items : List α) (first last base : Nat) :
    ((items.zipIdx base).filter fun entry => first ≤ entry.2 ∧ entry.2 < last).map Prod.fst =
      (items.take (last - base)).drop (first - base) := by
  -- behind each element the numbering begins one higher, and both ends come nearer by one
  induction items generalizing base with
  | nil => simp
  | cons item items ih =>
    have hrest := ih (base + 1)
    rw [List.zipIdx_cons, List.filter_cons]
    by_cases hlast : base < last
    · have hstop : last - base = last - (base + 1) + 1 := by omega
      rw [hstop, List.take_succ_cons]
      by_cases hfirst : first ≤ base
      · have hzero : first - base = 0 := by omega
        have hnext : first - (base + 1) = 0 := by omega
        rw [if_pos (by simp [hfirst, hlast]), List.map_cons, hrest, hzero, hnext, List.drop_zero,
          List.drop_zero]
      · have hsucc : first - base = first - (base + 1) + 1 := by omega
        rw [if_neg (by simp [hfirst]), hrest, hsucc, List.drop_succ_cons]
    · have hzero : last - base = 0 := by omega
      have hnext : last - (base + 1) = 0 := by omega
      rw [if_neg (by simp [hlast]), hrest, hzero, hnext, List.take_zero, List.take_zero]
      simp

theorem cut_eq_kept (items : List α) (start stop : Option Int) :
    cut items start stop = kept items start stop := by
  have hfilter := map_filter_zipIdx items (bounds items.length start stop).1
    (bounds items.length start stop).2 0
  simp only [Nat.sub_zero] at hfilter
  rw [cut, kept]
  simp only [keeps_iff]
  exact hfilter.symm

/-! ## Words of 64 bits -/

def addWords? (a b : Int64) : Option Int64 :=
  if a.toBitVec.saddOverflow b.toBitVec then none else some (a + b)

/-- The word brought between two others, unless these are in the wrong order. -/
def clampWord? (low high word : Int64) : Option Int64 :=
  if high < low then none
  else if word < low then some low
  else if high < word then some high
  else some word

/-- The bound counted from the beginning, unless the sum overflows. -/
def countWord? (size bound : Int64) : Option Int64 :=
  if bound < 0 then addWords? size bound else some bound

def wordPosition? (size bound : Int64) : Option Nat := do
  let counted ← countWord? size bound
  let clamped ← clampWord? 0 size counted
  return clamped.toNatClampNeg

def wordBounds? (length : Nat) (start stop : Option Int64) : Option (Nat × Nat) := do
  let size := Int64.ofIntClamp length
  let first ← wordPosition? size (start.getD 0)
  let last ← wordPosition? size (stop.getD size)
  return (first, max last first)

/-- The elements between the bounds, unless these do not lie in the list in order. -/
def wordCut? (items : List α) (start stop : Option Int64) : Option (List α) := do
  let (first, last) ← wordBounds? items.length start stop
  if first ≤ last ∧ last ≤ items.length then some ((items.take last).drop first) else none

theorem addWords?_of_neg {size bound : Int64} (hsize : 0 ≤ size.toInt) (hbound : bound.toInt < 0) :
    ∃ sum, addWords? size bound = some sum ∧ sum.toInt = size.toInt + bound.toInt := by
  -- the sum lies between the two words
  have hlow := bound.le_toInt
  have hhigh := size.toInt_lt
  have hoverflow : ¬ size.toBitVec.saddOverflow bound.toBitVec = true := by
    simp only [BitVec.saddOverflow, Int64.toInt_toBitVec, Bool.or_eq_true, decide_eq_true_eq]
    omega
  refine ⟨size + bound, if_neg hoverflow, ?_⟩
  rw [← Int64.toInt_toBitVec, Int64.toBitVec_add, BitVec.toInt_add_of_not_saddOverflow hoverflow,
    Int64.toInt_toBitVec, Int64.toInt_toBitVec]

theorem clampWord?_zero {size : Int64} (hsize : 0 ≤ size.toInt) (word : Int64) :
    ∃ clamped, clampWord? 0 size word = some clamped ∧
      clamped.toInt = max 0 (min word.toInt size.toInt) := by
  have hzero := Int64.toInt_zero
  simp only [clampWord?, Int64.lt_iff_toInt_lt, hzero]
  rw [if_neg (by omega)]
  split
  · exact ⟨0, rfl, by omega⟩
  · split
    · exact ⟨size, rfl, by omega⟩
    · exact ⟨word, rfl, by omega⟩

theorem toInt_ofIntClamp_length (hlength : (length : Int) ≤ Integer.maxInt64) :
    (Int64.ofIntClamp length).toInt = length := by
  have hmax := Integer.maxInt64_eq
  have hword := Int64.toInt_maxValue
  have hmin := Int64.toInt_minValue
  exact Int64.toInt_ofIntClamp (by omega) (by omega)

theorem countWord?_eq {size : Int64} (hsize : size.toInt = length) (bound : Int64) :
    ∃ counted, countWord? size bound = some counted ∧
      counted.toInt = if bound.toInt < 0 then (length : Int) + bound.toInt else bound.toInt := by
  simp only [countWord?, Int64.lt_iff_toInt_lt, Int64.toInt_zero]
  by_cases hbound : bound.toInt < 0
  · have hpos : 0 ≤ size.toInt := by omega
    obtain ⟨sum, hsum, htoInt⟩ := addWords?_of_neg hpos hbound
    exact ⟨sum, by rw [if_pos hbound, hsum], by rw [if_pos hbound, htoInt, hsize]⟩
  · exact ⟨bound, if_neg hbound, (if_neg hbound).symm⟩

theorem wordPosition?_eq {size : Int64} (hsize : size.toInt = length) (bound : Int64) :
    wordPosition? size bound = some (position length bound.toInt) := by
  have hpos : 0 ≤ size.toInt := by omega
  obtain ⟨counted, hcounted, htoInt⟩ := countWord?_eq hsize bound
  obtain ⟨word, hword, hclamped⟩ := clampWord?_zero hpos counted
  have hposition : word.toNatClampNeg = position length bound.toInt := by
    rw [← Int64.toNat_toInt, hclamped, htoInt, hsize]
    rfl
  simp [wordPosition?, hcounted, hword, hposition]

theorem wordBounds?_eq (hlength : (length : Int) ≤ Integer.maxInt64) (start stop : Option Int64) :
    wordBounds? length start stop =
      some (bounds length (start.map Int64.toInt) (stop.map Int64.toInt)) := by
  have hsize := toInt_ofIntClamp_length hlength
  have hstart : (start.map Int64.toInt).getD 0 = (start.getD 0).toInt := by
    cases start <;> rfl
  have hstop : (stop.map Int64.toInt).getD (length : Int) =
      (stop.getD (Int64.ofIntClamp length)).toInt := by
    cases stop with
    | none => exact hsize.symm
    | some bound => rfl
  simp [wordBounds?, bounds, hstart, hstop, wordPosition?_eq hsize]

theorem wordCut?_eq {items : List α} (hlength : (items.length : Int) ≤ Integer.maxInt64)
    (start stop : Option Int64) :
    wordCut? items start stop = some (cut items (start.map Int64.toInt) (stop.map Int64.toInt)) := by
  have hordered := bounds_ordered items.length (start.map Int64.toInt) (stop.map Int64.toInt)
  simp [wordCut?, wordBounds?_eq hlength, hordered, cut]

end Slice

/-! ## Slices of arrays and strings -/

/-- **A slice keeps exactly what lies between its bounds, and words suffice to find it.** For all
bounds of 64 bits, the bounds of a list whose length is a word are computed without overflow and lie
in the list in order. A slice of an array, and of the characters of a string, keeps the elements at
or behind the start and before the stop, in their order; reading it off the list is never out of
range. -/
theorem Json.slice_exact (start stop : Option Int64) :
    (∀ length : Nat, (length : Int) ≤ Integer.maxInt64 →
      ∃ first last, Slice.wordBounds? length start stop = some (first, last) ∧
        Slice.bounds length (start.map Int64.toInt) (stop.map Int64.toInt) = (first, last) ∧
        first ≤ last ∧ last ≤ length) ∧
    (∀ items : List Json, (items.length : Int) ≤ Integer.maxInt64 →
      ∃ part, Slice.wordCut? items start stop = some part ∧
        (Json.array items).slice? (start.map Int64.toInt) (stop.map Int64.toInt) =
          some (.array part) ∧
        part = Slice.kept items (start.map Int64.toInt) (stop.map Int64.toInt)) ∧
    (∀ text : String, (text.toList.length : Int) ≤ Integer.maxInt64 →
      ∃ part, Slice.wordCut? text.toList start stop = some part ∧
        (Json.string text).slice? (start.map Int64.toInt) (stop.map Int64.toInt) =
          some (.string (String.ofList part)) ∧
        part = Slice.kept text.toList (start.map Int64.toInt) (stop.map Int64.toInt)) := by
  refine ⟨fun length hlength => ?_, fun items hlength => ?_, fun text hlength => ?_⟩
  · have hordered := Slice.bounds_ordered length (start.map Int64.toInt) (stop.map Int64.toInt)
    exact ⟨_, _, Slice.wordBounds?_eq hlength start stop, rfl, hordered⟩
  · exact ⟨_, Slice.wordCut?_eq hlength start stop, rfl, Slice.cut_eq_kept _ _ _⟩
  · exact ⟨_, Slice.wordCut?_eq hlength start stop, rfl, Slice.cut_eq_kept _ _ _⟩

/-- `[null, true, "c"]` -/
def mixedItems : List Json := [.null, .bool true, .string "c"]

theorem Json.slice_exact_mixedItems :
    mixedItems.length ≤ Integer.maxInt64 ∧ "αβγ".toList.length ≤ Integer.maxInt64 ∧
    Slice.wordBounds? 3 (some Int64.minValue) (some (-1)) = some (0, 2) ∧
    (Json.array mixedItems).slice? (some (-9223372036854775808)) (some (-1)) =
      some (.array [.null, .bool true]) ∧
    (Json.string "αβγ").slice? (some 1) (some 9223372036854775807) = some (.string "βγ") := by
  have hitems : mixedItems.length ≤ Integer.maxInt64 := by decide
  have htext : "αβγ".toList.length ≤ Integer.maxInt64 := by decide
  obtain ⟨hbounds, harray, -⟩ := slice_exact (some Int64.minValue) (some (-1))
  obtain ⟨-, -, hstring⟩ := slice_exact (some 1) (some Int64.maxValue)
  obtain ⟨first, last, hwords, heq, -, -⟩ := hbounds 3 hitems
  obtain ⟨items, -, hslice, rfl⟩ := harray _ hitems
  obtain ⟨letters, -, htail, rfl⟩ := hstring _ htext
  refine ⟨hitems, htext, ?_, hslice, htail⟩
  rw [hwords, ← heq]
  rfl

end TemplateBundler
