import TemplateBundler.Proofs.Data.Pointing
import TemplateBundler.Proofs.Data.Slicing
import TemplateBundler.Proofs.Number.DecimalText

/-!
# TextBounds: bounds that are written as texts

A bound may be a number or the decimal text of one. Both mean the same, as long as the number fits
64 signed bits. A larger number stands for the largest bound, but its text for no bound at all: as
a stop both mean the end, whereas as a start one of them means the end and the other the beginning.
-/

namespace TemplateBundler

namespace Integer

theorem int64?_of_le {n : Int} (hn : minInt64 ≤ n) (hmax : n ≤ maxInt64) :
    int64? n = some (saturate n) := by
  rw [int64?, if_pos ⟨hn, hmax⟩, saturate, Option.some.injEq]
  omega

theorem int64?_of_lt {n : Int} (h : maxInt64 < n) : int64? n = none := by
  rw [int64?, if_neg (by omega)]

theorem saturate_of_lt {n : Int} (h : maxInt64 < n) : saturate n = maxInt64 := by
  have hword : minInt64 ≤ maxInt64 := by decide
  unfold saturate
  omega

end Integer

theorem sliceBound?_text (n : Int) :
    sliceBound? (.string (String.ofList (Integer.text n))) = Integer.int64? n := by
  rw [sliceBound?, String.toList_ofList, Integer.trim_text, Integer.signedOf?_text,
    Option.bind_some]

/-! ## Bounds behind the end -/

namespace Slice

variable {α : Type}

theorem position_of_le {length : Nat} {bound : Int} (h : length ≤ bound) :
    position length bound = length := by
  have hposition := position_eq length bound
  unfold clamped at hposition
  omega

theorem cut_stop_of_le {items : List α} {bound : Int} (h : items.length ≤ bound)
    (start : Option Int) : cut items start (some bound) = cut items start none := by
  have hend : position items.length items.length = items.length := position_of_le (Int.le_refl _)
  simp only [cut, bounds, Option.getD_some, Option.getD_none, position_of_le h, hend]

theorem cut_start_of_le {items : List α} {bound : Int} (h : items.length ≤ bound)
    (stop : Option Int) : cut items (some bound) stop = [] := by
  have hstop := position_le items.length (stop.getD items.length)
  simp only [cut, bounds, Option.getD_some, position_of_le h]
  rw [List.drop_eq_nil_iff]
  exact (List.length_take_le _ _).trans (by omega)

end Slice

namespace Json

def extent : Json → Nat
  | .array items => items.length
  | .string text => text.toList.length
  | .null | .bool _ | .number _ | .object _ => 0

/-- An array without elements, and a string without characters. Other values have none. -/
def emptied : Json → Json
  | .array _ => .array []
  | .string _ => .string ""
  | other => other

theorem slice?_stop_of_le {value : Json} {bound : Int} (h : value.extent ≤ bound)
    (start : Option Int) : value.slice? start (some bound) = value.slice? start none := by
  cases value with
  | array items => rw [slice?, slice?, Slice.cut_stop_of_le h]
  | string text => rw [slice?, slice?, Slice.cut_stop_of_le h]
  | null | bool flag | number number | object fields => rfl

theorem slice?_start_of_le {value : Json} {bound : Int} (h : value.extent ≤ bound)
    (stop : Option Int) : (value.slice? (some bound) stop).getD value = value.emptied := by
  cases value with
  | array items => rw [slice?, Slice.cut_start_of_le h]; rfl
  | string text => rw [slice?, Slice.cut_start_of_le h]; rfl
  | null | bool flag | number number | object fields => rfl

end Json

/-! ## Bounds of a token -/

def boundAt? (params : List Json) (place : Nat) : Option Int := params[place]?.bind sliceBound?

def ExprToken.IsSlice (token : ExprToken) (params : List Json) : Prop :=
  token.kind = .slice ∧ Entries.valueOf? "params" token.fields = some (.array params)

theorem ExprToken.IsSlice.classify {token : ExprToken} {params : List Json}
    (h : token.IsSlice params) :
    token.classify = .ok (.slice (boundAt? params 0) (boundAt? params 1)) := by
  simp [ExprToken.classify, h.1, h.2, Json.asArray?, boundAt?]

theorem boundAt?_number {params : List Json} {place : Nat} {n : Int}
    (h : params[place]? = some (.number (.int n))) :
    boundAt? params place = some (Integer.saturate n) := by
  rw [boundAt?, h]
  rfl

/-! ## A number and its text -/

section TextBound

variable {n : Int} {place : Nat} {params : List Json}

/-- The parameters with the decimal text of a number in one place. -/
def withText (params : List Json) (place : Nat) (n : Int) : List Json :=
  params.set place (.string (String.ofList (Integer.text n)))

theorem boundAt?_withText_of_ne {other : Nat} (h : place ≠ other) :
    boundAt? (withText params place n) other = boundAt? params other := by
  rw [boundAt?, boundAt?, withText, List.getElem?_set_ne h]

theorem boundAt?_withText (h : params[place]? = some (.number (.int n))) :
    boundAt? (withText params place n) place = Integer.int64? n := by
  obtain ⟨hplace, -⟩ := List.getElem?_eq_some_iff.1 h
  rw [boundAt?, withText, List.getElem?_set_self hplace, Option.bind_some, sliceBound?_text]

theorem boundAt?_withText_of_le (h : params[place]? = some (.number (.int n)))
    (hn : Integer.minInt64 ≤ n) (hmax : n ≤ Integer.maxInt64) (other : Nat) :
    boundAt? (withText params place n) other = boundAt? params other := by
  by_cases hother : place = other
  · subst hother
    rw [boundAt?_withText h, boundAt?_number h, Integer.int64?_of_le hn hmax]
  · exact boundAt?_withText_of_ne hother

theorem slice?_withText_of_lt (h : params[place]? = some (.number (.int n)))
    (hmax : Integer.maxInt64 < n) (hplace : place ≠ 0) {value : Json}
    (hlength : value.extent ≤ Integer.maxInt64) (start : Option Int) :
    value.slice? start (boundAt? (withText params place n) 1) =
      value.slice? start (boundAt? params 1) := by
  by_cases hone : place = 1
  · subst hone
    rw [boundAt?_withText h, boundAt?_number h, Integer.int64?_of_lt hmax,
      Integer.saturate_of_lt hmax, Json.slice?_stop_of_le hlength]
  · rw [boundAt?_withText_of_ne hone]

theorem slice?_withText (h : params[place]? = some (.number (.int n)))
    (hn : Integer.minInt64 ≤ n) (hplace : n ≤ Integer.maxInt64 ∨ place ≠ 0) {value : Json}
    (hlength : Integer.maxInt64 < n → value.extent ≤ Integer.maxInt64) :
    value.slice? (boundAt? (withText params place n) 0) (boundAt? (withText params place n) 1) =
      value.slice? (boundAt? params 0) (boundAt? params 1) := by
  by_cases hmax : n ≤ Integer.maxInt64
  · rw [boundAt?_withText_of_le h hn hmax, boundAt?_withText_of_le h hn hmax]
  · have hzero : place ≠ 0 := hplace.resolve_left hmax
    have hlarge : Integer.maxInt64 < n := by omega
    rw [boundAt?_withText_of_ne hzero, slice?_withText_of_lt h hlarge hzero (hlength hlarge)]

/-- **A number and its text are the same bound of a slice**, if the number fits 64 signed bits or
the bound is the stop. They are not if a larger number is the start: the number leaves nothing of an
array or a string, and the text leaves all from the beginning to the stop. The stack before the
slice points at the value that is cut. An integer is never below 64 signed bits, and a length never
above them. -/
theorem pointAt_textBound (hn : Integer.minInt64 ≤ n)
    (hparam : params[place]? = some (.number (.int n))) {number text : ExprToken}
    (hnumber : number.IsSlice params) (htext : text.IsSlice (withText params place n))
    {front : List ExprToken} {document value : Json} {scope : Scope}
    (hfront : pointAt front document scope = .ok value)
    (hlength : Integer.maxInt64 < n → value.extent ≤ Integer.maxInt64) :
    (n ≤ Integer.maxInt64 ∨ place ≠ 0 → ∀ behind,
      pointAt (front ++ number :: behind) document scope =
        pointAt (front ++ text :: behind) document scope) ∧
    (Integer.maxInt64 < n → place = 0 →
      pointAt (front ++ [number]) document scope = .ok value.emptied ∧
      pointAt (front ++ [text]) document scope =
        .ok ((value.slice? none (boundAt? params 1)).getD value)) := by
  refine ⟨fun hplace behind => ?_, fun hmax hplace => ⟨?_, ?_⟩⟩
  · rw [pointAt_append_cons hfront hnumber.classify, pointAt_append_cons hfront htext.classify]
    simp only [Pointing.step, slice?_withText hparam hn hplace hlength]
  · subst hplace
    rw [pointAt_append_cons hfront hnumber.classify, boundAt?_number hparam,
      Integer.saturate_of_lt hmax, Pointing.step, Json.slice?_start_of_le (hlength hmax)]
    rfl
  · subst hplace
    rw [pointAt_append_cons hfront htext.classify, boundAt?_withText hparam,
      Integer.int64?_of_lt hmax, boundAt?_withText_of_ne (by decide)]
    rfl

end TextBound

/-! ### Bounds beyond all words -/

def sliceToken (params : List Json) : ExprToken := ⟨.slice, [("params", .array params)]⟩

theorem isSlice_sliceToken (params : List Json) : (sliceToken params).IsSlice params := ⟨rfl, rfl⟩

def letters : Json := .array [.string "a", .string "b", .string "c"]

/-- `[-2:9223372036854775808]` -/
def farStop : List Json := [.number (.int (-2)), .number (.int 9223372036854775808)]

theorem pointAt_textBound_farStop :
    Integer.minInt64 ≤ 9223372036854775808 ∧
    farStop[1]? = some (.number (.int 9223372036854775808)) ∧
    letters.extent ≤ Integer.maxInt64 ∧
    pointAt [sliceToken farStop, keyToken "1"] letters {} =
      pointAt [sliceToken (withText farStop 1 9223372036854775808), keyToken "1"] letters {} := by
  have hn : Integer.minInt64 ≤ 9223372036854775808 := by decide
  have hparam : farStop[1]? = some (.number (.int 9223372036854775808)) := rfl
  have hfront : pointAt [] letters {} = .ok letters := rfl
  have hlength : letters.extent ≤ Integer.maxInt64 := by decide
  have hbounds := pointAt_textBound hn hparam (isSlice_sliceToken _) (isSlice_sliceToken _) hfront
    fun _ => hlength
  exact ⟨hn, hparam, hlength, hbounds.1 (.inr (by decide)) [keyToken "1"]⟩

/-- `[9223372036854775808:]` -/
def farStart : List Json := [.number (.int 9223372036854775808)]

/-- A start beyond all words leaves nothing, and its text leaves everything. -/
theorem pointAt_farStart :
    farStart[0]? = some (.number (.int 9223372036854775808)) ∧
    9223372036854775808 ≤ Integer.maxUInt64 ∧
    withText farStart 0 9223372036854775808 = [.string "9223372036854775808"] ∧
    pointAt [sliceToken farStart] letters {} = .ok (.array []) ∧
    pointAt [sliceToken [.string "9223372036854775808"]] letters {} = .ok letters :=
  ⟨rfl, by decide, rfl, rfl, rfl⟩

end TemplateBundler
