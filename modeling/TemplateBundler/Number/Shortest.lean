import TemplateBundler.Number.Binary64

/-!
# Shortest: the fewest decimal digits that read back

The reals that round to a double form an interval around it. Of the decimals inside it, those on
the coarsest grid `10 ^ k` have the fewest digits; of those the nearest is taken, and the even one
of two that are equally near.
-/

namespace TemplateBundler

structure Decimal where
  digits : Nat
  exponent : Int
deriving DecidableEq, Repr

namespace Decimal

def stripZeros (digits : Nat) (exponent : Int) : Decimal :=
  if h : digits ≠ 0 ∧ digits % 10 = 0 then
    stripZeros (digits / 10) (exponent + 1)
  else ⟨digits, exponent⟩
termination_by digits
decreasing_by omega

end Decimal

namespace Binary64

/-- The reals that round to `mantissa · 2 ^ exponent`, in quarters of the last binary place, as the
ratios `low / den` and `high / den` around `value / den`. -/
structure RoundingInterval where
  low : Nat
  value : Nat
  high : Nat
  den : Nat
  /-- The ends round to the value too: they are ties and go to the even mantissa. -/
  closed : Bool

/-- The interval of a magnitude. Below a power of two the doubles lie twice as close. -/
def roundingInterval (x : Binary64) : RoundingInterval :=
  let below := if x.mantissa = Nat.pow 2 52 ∧ minExponent < x.exponent then 1 else 2
  let unit := x.exponent - 2
  let scale := if 0 ≤ unit then Nat.pow 2 unit.toNat else 1
  let den := if 0 ≤ unit then 1 else Nat.pow 2 (-unit).toNat
  { low := (4 * x.mantissa - below) * scale
    value := 4 * x.mantissa * scale
    high := (4 * x.mantissa + 2) * scale
    den := den
    closed := x.mantissa % 2 = 0 }

def RoundingInterval.holds (i : RoundingInterval) (point : Nat) (k : Int) : Bool :=
  let left := if 0 ≤ k then point * Nat.pow 10 k.toNat * i.den else point * i.den
  let scale := if 0 ≤ k then 1 else Nat.pow 10 (-k).toNat
  if i.closed then i.low * scale ≤ left && left ≤ i.high * scale
  else i.low * scale < left && left < i.high * scale

def floorLog10 (num den : Nat) : Int :=
  let guess : Int := ((Nat.toDigits 10 num).length : Int) - ((Nat.toDigits 10 den).length : Int)
  let reached :=
    if 0 ≤ guess then den * Nat.pow 10 guess.toNat ≤ num
    else den ≤ num * Nat.pow 10 (-guess).toNat
  if reached then guess else guess - 1

/-- The point of the grid `10 ^ k` that stands for the value, if one lies in the interval: one of
the two neighbours of the value. -/
def RoundingInterval.onGrid? (i : RoundingInterval) (k : Int) : Option Nat :=
  let num := if 0 ≤ k then i.value else i.value * Nat.pow 10 (-k).toNat
  let den := if 0 ≤ k then i.den * Nat.pow 10 k.toNat else i.den
  let below := num / den
  match i.holds below k, i.holds (below + 1) k with
  | true, true => some (roundHalfEven num den)
  | true, false => some below
  | false, true => some (below + 1)
  | false, false => none

def RoundingInterval.coarsest (i : RoundingInterval) (k : Int) : Nat → Decimal
  | 0 => ⟨i.value / i.den, 0⟩
  | tries + 1 =>
    match i.onGrid? k with
    | some point => Decimal.stripZeros point k
    | none => i.coarsest (k - 1) tries

/-- The shortest decimal that reads back as the magnitude of a nonzero double. Seventeen digits
always suffice. -/
def shortest (x : Binary64) : Decimal :=
  let i := x.roundingInterval
  i.coarsest (floorLog10 i.value i.den) 17

end Binary64

end TemplateBundler
