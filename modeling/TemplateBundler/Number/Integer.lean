/-!
# Integer: whole numbers as text

Digits of a base are read as natural numbers, and decimal digits with a sign as integers. An integer
beyond 64 signed bits is refused (`int64?`) or brought to the nearest bound (`saturate`).
-/

namespace TemplateBundler.Integer

def digitOf? (base : Nat) (c : Char) : Option Nat :=
  let value :=
    if '0' ≤ c ∧ c ≤ '9' then c.toNat - '0'.toNat
    else if 'a' ≤ c ∧ c ≤ 'f' then c.toNat - 'a'.toNat + 10
    else if 'A' ≤ c ∧ c ≤ 'F' then c.toNat - 'A'.toNat + 10
    else base
  if value < base then some value else none

def isDigit (c : Char) : Bool := decide ('0' ≤ c ∧ c ≤ '9')

def continueFrom? (base : Nat) : Nat → List Char → Option Nat
  | start, [] => some start
  | start, c :: rest =>
    match digitOf? base c with
    | some digit => continueFrom? base (base * start + digit) rest
    | none => none

def natOf? (base : Nat) (digits : List Char) : Option Nat :=
  if digits.isEmpty then none else continueFrom? base 0 digits

/-- The digits with an optional plus sign in front. -/
def unsignedOf? : List Char → Option Nat
  | '+' :: digits => natOf? 10 digits
  | digits => natOf? 10 digits

def signedOf? : List Char → Option Int
  | '-' :: digits => (natOf? 10 digits).map fun n => -(n : Int)
  | digits => (unsignedOf? digits).map fun n => (n : Int)

def digits (n : Nat) : List Char := Nat.toDigits 10 n

def text (n : Int) : List Char :=
  if n < 0 then '-' :: digits n.natAbs else digits n.natAbs

/-! ## Ranges -/

def minInt64 : Int := -Int.pow 2 63

def maxInt64 : Int := Int.pow 2 63 - 1

def maxUInt64 : Int := Int.pow 2 64 - 1

def int64? (n : Int) : Option Int :=
  if minInt64 ≤ n ∧ n ≤ maxInt64 then some n else none

def saturate (n : Int) : Int := max minInt64 (min maxInt64 n)

end TemplateBundler.Integer
