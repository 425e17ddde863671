/-!
# Binary64: finite double-precision numbers as exact dyadic values

A finite double is `± mantissa · 2 ^ exponent`. Every operation is exact arithmetic on natural
numbers followed by one rounding to the nearest double, a tie going to the even mantissa.

* `Binary64.nearest?`: the double nearest to a ratio, unless it overflows;
* `Binary64.ofNat?`, `Binary64.mul?`, `Binary64.div?`: rounded operations;
* `Binary64.ofDecimal?`: the double nearest to `digits · 10 ^ exponent`;
* `Binary64.truncate`: the integer part.
-/

namespace TemplateBundler

/-- A finite double: `mantissa · 2 ^ exponent`, negated if `negative`. -/
structure Binary64 where
  negative : Bool
  mantissa : Nat
  exponent : Int
deriving DecidableEq, Repr

namespace Binary64

def minExponent : Int := -1074

def maxExponent : Int := 971

def zero (negative : Bool) : Binary64 := ⟨negative, 0, minExponent⟩

def isZero (x : Binary64) : Bool := x.mantissa == 0

def neg (x : Binary64) : Binary64 := { x with negative := !x.negative }

/-! ## Rounding -/

def roundHalfEven (num den : Nat) : Nat :=
  let quotient := num / den
  let twice := 2 * (num % den)
  if twice < den then quotient
  else if den < twice then quotient + 1
  else if quotient % 2 = 0 then quotient else quotient + 1

def descale (num den : Nat) (shift : Int) : Nat × Nat :=
  if 0 ≤ shift then (num, den * Nat.pow 2 shift.toNat)
  else (num * Nat.pow 2 (-shift).toNat, den)

/-- The `e` with `2 ^ e ≤ num / den < 2 ^ (e + 1)`, for positive `num` and `den`. -/
def floorLog2 (num den : Nat) : Int :=
  let guess : Int := (num.log2 : Int) - (den.log2 : Int)
  let (n, d) := descale num den guess
  if d ≤ n then guess else guess - 1

/-- The non-negative double nearest to `num / den`; `none` if it would be infinite. -/
def nearest? (num den : Nat) : Option Binary64 :=
  if num = 0 then some (zero false)
  else
    let exponent := max (floorLog2 num den - 52) minExponent
    let (n, d) := descale num den exponent
    let mantissa := roundHalfEven n d
    let rounded : Binary64 :=
      if mantissa = Nat.pow 2 53 then ⟨false, Nat.pow 2 52, exponent + 1⟩
      else ⟨false, mantissa, exponent⟩
    if rounded.exponent ≤ maxExponent then some rounded else none

/-! ## Operations -/

def ofNat? (n : Nat) : Option Binary64 := nearest? n 1

def ratio (x : Binary64) : Nat × Nat := descale x.mantissa 1 (-x.exponent)

def mul? (x y : Binary64) : Option Binary64 :=
  nearest? (x.ratio.1 * y.ratio.1) (x.ratio.2 * y.ratio.2)

def div? (x y : Binary64) : Option Binary64 :=
  nearest? (x.ratio.1 * y.ratio.2) (x.ratio.2 * y.ratio.1)

/-- The double nearest to `digits · 10 ^ exponent`; `none` if it would be infinite. Exponents far
beyond the range are settled without computing the power. -/
def ofDecimal? (digits : Nat) (exponent : Int) : Option Binary64 :=
  if digits = 0 then some (zero false)
  else
    let leading : Int := exponent + (Nat.toDigits 10 digits).length
    if 400 < leading then none
    else if leading < -400 then some (zero false)
    else if 0 ≤ exponent then nearest? (digits * Nat.pow 10 exponent.toNat) 1
    else nearest? digits (Nat.pow 10 (-exponent).toNat)

def truncate (x : Binary64) : Int :=
  let magnitude : Int := ((x.ratio.1 / x.ratio.2 : Nat) : Int)
  if x.negative then -magnitude else magnitude

end Binary64

end TemplateBundler
