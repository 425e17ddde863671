import TemplateBundler.Json.Basic
import TemplateBundler.Number.Integer

/-!
# Literal: the numbers of JSON text

A literal without fraction and exponent whose value fits 64 bits is an exact integer. Any other
literal is a double computed from at most 64 bits of digits: a digit that no longer fits is
dropped, and the digits are then scaled by one rounded power of ten.

* `Json.Literal`: the parts of a number as written;
* `Json.Literal.read?`: a literal and the text behind it;
* `Json.Literal.number?`: its value, unless that is beyond the doubles.
-/

namespace TemplateBundler.Json

structure Literal where
  negative : Bool
  whole : List Char
  fraction : List Char
  /-- The literal has a point or an exponent. -/
  fractional : Bool
  exponent : Int
deriving Repr

namespace Literal

/-! ## Reading -/

def spanDigits (s : List Char) : List Char × List Char :=
  (s.takeWhile Integer.isDigit, s.dropWhile Integer.isDigit)

def readWhole? (s : List Char) : Option (List Char × List Char) :=
  match spanDigits s with
  | ([], _) => none
  | ('0' :: _ :: _, _) => none
  | (digits, rest) => some (digits, rest)

def readFraction? : List Char → Option (List Char × List Char × Bool)
  | '.' :: s =>
    match spanDigits s with
    | ([], _) => none
    | (digits, rest) => some (digits, rest, true)
  | s => some ([], s, false)

def readPower? (s : List Char) : Option (Int × List Char) :=
  let (negative, s) : Bool × List Char :=
    match s with
    | '+' :: rest => (false, rest)
    | '-' :: rest => (true, rest)
    | rest => (false, rest)
  let (digits, rest) := spanDigits s
  (Integer.natOf? 10 digits).map fun n => (if negative then -(n : Int) else n, rest)

def readExponent? : List Char → Option (Int × List Char × Bool)
  | 'e' :: s | 'E' :: s => (readPower? s).map fun (power, rest) => (power, rest, true)
  | s => some (0, s, false)

def read? (s : List Char) : Option (Literal × List Char) := do
  let (negative, s) : Bool × List Char :=
    match s with
    | '-' :: rest => (true, rest)
    | rest => (false, rest)
  let (whole, s) ← readWhole? s
  let (fraction, s, pointed) ← readFraction? s
  let (exponent, s, powered) ← readExponent? s
  return (⟨negative, whole, fraction, pointed || powered, exponent⟩, s)

/-! ## A literal takes at least one character -/

theorem length_spanDigits (s : List Char) :
    (spanDigits s).1.length + (spanDigits s).2.length = s.length := by
  rw [← List.length_append, spanDigits, List.takeWhile_append_dropWhile]

theorem length_readWhole? {s digits rest : List Char} (h : readWhole? s = some (digits, rest)) :
    rest.length < s.length := by
  have hs := length_spanDigits s
  unfold readWhole? at h
  split at h
  · cases h
  · cases h
  · rename_i digits' rest' hne _ heq
    cases h
    have : 0 < digits.length := List.length_pos_iff.2 hne
    rw [heq] at hs
    simp only at hs
    omega

theorem length_readFraction? {s digits rest : List Char} {pointed : Bool}
    (h : readFraction? s = some (digits, rest, pointed)) : rest.length ≤ s.length := by
  unfold readFraction? at h
  split at h
  · rename_i s
    have hs := length_spanDigits s
    split at h
    · cases h
    · rename_i heq
      cases h
      rw [heq] at hs
      simp only [List.length_cons] at hs ⊢
      omega
  · cases h
    exact Nat.le_refl _

theorem length_readPower? {s rest : List Char} {power : Int}
    (h : readPower? s = some (power, rest)) : rest.length ≤ s.length := by
  unfold readPower? at h
  simp only [Option.map_eq_some_iff, Prod.mk.injEq] at h
  obtain ⟨n, -, -, rfl⟩ := h
  split
  · have := length_spanDigits ‹List Char›
    simp only [List.length_cons]
    omega
  · have := length_spanDigits ‹List Char›
    simp only [List.length_cons]
    omega
  · have := length_spanDigits s
    simp only
    omega

theorem length_readExponent? {s rest : List Char} {power : Int} {powered : Bool}
    (h : readExponent? s = some (power, rest, powered)) : rest.length ≤ s.length := by
  unfold readExponent? at h
  split at h
  · simp only [Option.map_eq_some_iff, Prod.mk.injEq, Prod.exists] at h
    obtain ⟨_, _, hp, -, rfl, -⟩ := h
    exact Nat.le_succ_of_le (length_readPower? hp)
  · simp only [Option.map_eq_some_iff, Prod.mk.injEq, Prod.exists] at h
    obtain ⟨_, _, hp, -, rfl, -⟩ := h
    exact Nat.le_succ_of_le (length_readPower? hp)
  · cases h
    exact Nat.le_refl _

theorem length_read? {s rest : List Char} {literal : Literal}
    (h : read? s = some (literal, rest)) : rest.length < s.length := by
  unfold read? at h
  simp only [Option.bind_eq_bind, Option.bind_eq_some_iff] at h
  obtain ⟨⟨whole, s₁⟩, h₁, ⟨fraction, s₂, pointed⟩, h₂, ⟨power, s₃, powered⟩, h₃, h₄⟩ := h
  have l₁ := length_readWhole? h₁
  have l₂ := length_readFraction? h₂
  have l₃ := length_readExponent? h₃
  cases h₄
  simp only at l₁ l₂ l₃ ⊢
  split at l₁
  · simp only [List.length_cons] at l₁ ⊢
    omega
  · simp only at l₁
    omega

/-! ## Value -/

structure Significand where
  digits : Nat
  scale : Int

def Significand.absorb? (s : Significand) (c : Char) : Option Nat :=
  let grown := 10 * s.digits + (c.toNat - '0'.toNat)
  if grown < Nat.pow 2 64 then some grown else none

/-- Digits before the point: once one does not fit, it and all that follow only raise the scale. -/
def Significand.addWhole (s : Significand) : List Char → Significand
  | [] => s
  | c :: rest =>
    match s.absorb? c with
    | some grown => Significand.addWhole ⟨grown, s.scale⟩ rest
    | none => ⟨s.digits, s.scale + (rest.length + 1)⟩

/-- Digits behind the point: once one does not fit, it and all that follow are dropped. -/
def Significand.addFraction (s : Significand) : List Char → Significand
  | [] => s
  | c :: rest =>
    match s.absorb? c with
    | some grown => Significand.addFraction ⟨grown, s.scale - 1⟩ rest
    | none => s

def maxTenPower : Nat := 308

def tenPower? (power : Nat) : Option Binary64 := Binary64.ofNat? (Nat.pow 10 power)

def divideOut? (x : Binary64) : Nat → Option Binary64
  | 0 => some x
  | steps + 1 =>
    if x.isZero then some x
    else
      match (tenPower? maxTenPower).bind x.div? with
      | some smaller => divideOut? smaller steps
      | none => none

/-- A magnitude divided by a positive power of ten. A power that is no double is divided out in
steps, the remaining power last. -/
def divideByTenPower? (x : Binary64) (power : Nat) : Option Binary64 :=
  let steps := (power - 1) / maxTenPower
  (divideOut? x steps).bind fun y =>
    if y.isZero then some y else (tenPower? (power - steps * maxTenPower)).bind y.div?

/-- The double `digits · 10 ^ scale`, rounded once for the digits, once for the power and once for
their product or quotient; `none` if it overflows. -/
def Significand.float? (s : Significand) : Option Binary64 := do
  let x ← Binary64.ofNat? s.digits
  if s.scale < 0 then divideByTenPower? x (-s.scale).toNat
  else if s.scale ≤ maxTenPower then (tenPower? s.scale.toNat).bind x.mul?
  else if x.isZero then some x
  else none

/-- The literal as an exact integer, if it is one and fits 64 bits. Minus zero does not. -/
def integer? (literal : Literal) : Option Int := do
  let n ← if literal.fractional then none else Integer.natOf? 10 literal.whole
  if literal.negative then
    if n = 0 then none else Integer.int64? (-n)
  else if (n : Int) ≤ Integer.maxUInt64 then some n
  else none

def float? (literal : Literal) : Option Binary64 :=
  let whole := Significand.addWhole ⟨0, 0⟩ literal.whole
  let all := Significand.addFraction whole literal.fraction
  (Significand.float? ⟨all.digits, all.scale + literal.exponent⟩).map fun x =>
    { x with negative := literal.negative }

def number? (literal : Literal) : Option Number :=
  match literal.integer? with
  | some n => some (.int n)
  | none => literal.float?.map .float

end Literal

end TemplateBundler.Json
