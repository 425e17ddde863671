import TemplateBundler.Number.Binary64
import TemplateBundler.Number.Integer

/-!
# FloatText: doubles written in decimal

The text has a sign, digits with at most one point among or around them, and an exponent, all but
the digits optional. It stands for the double nearest to its exact value.
-/

namespace TemplateBundler.Binary64

/-- The digits before and behind the point, at least one of them, and the text behind. -/
def readMantissa? (s : List Char) : Option (Nat × Int × List Char) :=
  let whole := s.takeWhile Integer.isDigit
  let rest := s.dropWhile Integer.isDigit
  let (fraction, rest) :=
    match rest with
    | '.' :: behind => (behind.takeWhile Integer.isDigit, behind.dropWhile Integer.isDigit)
    | _ => ([], rest)
  (Integer.natOf? 10 (whole ++ fraction)).map fun digits => (digits, -(fraction.length : Int), rest)

def readExponent? : List Char → Option Int
  | [] => some 0
  | 'e' :: digits | 'E' :: digits => Integer.signedOf? digits
  | _ => none

def magnitude? (s : List Char) : Option Binary64 := do
  let (digits, scale, rest) ← readMantissa? s
  let exponent ← readExponent? rest
  ofDecimal? digits (scale + exponent)

/-- The double of a text; `none` if it is no number or beyond the doubles. -/
def ofText? : List Char → Option Binary64
  | '-' :: s => (magnitude? s).map neg
  | '+' :: s => magnitude? s
  | s => magnitude? s

end TemplateBundler.Binary64
