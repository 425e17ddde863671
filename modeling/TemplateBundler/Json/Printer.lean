import TemplateBundler.Json.Basic
import TemplateBundler.Number.Integer
import TemplateBundler.Number.Shortest

/-!
# Printer: compact JSON text

A value is written without any blanks, and a double with the fewest digits that read back as it.
-/

namespace TemplateBundler

/-! ## Strings -/

namespace Json

def hexDigit (n : Nat) : Char := Nat.digitChar n

/-- How a character stands in a quoted string: the quote, the backslash and the characters below
U+0020 are escaped, everything else stands for itself. -/
def escape (c : Char) : List Char :=
  if c = '"' then ['\\', '"']
  else if c = '\\' then ['\\', '\\']
  else if 0x20 ≤ c.toNat then [c]
  else if c.toNat = 0x08 then ['\\', 'b']
  else if c.toNat = 0x09 then ['\\', 't']
  else if c.toNat = 0x0A then ['\\', 'n']
  else if c.toNat = 0x0C then ['\\', 'f']
  else if c.toNat = 0x0D then ['\\', 'r']
  else ['\\', 'u', '0', '0', hexDigit (c.toNat / 16), hexDigit (c.toNat % 16)]

def quoteChars (s : List Char) : List Char := '"' :: s.flatMap escape ++ ['"']

end Json

/-! ## Numbers -/

/-- How a double is laid out: positional when the exponent of the leading digit lies in
`[-5, 16)`, always with a fraction; otherwise with a signed exponent. -/
structure FloatLayout where
  minPositional : Int
  maxPositional : Int

def FloatLayout.json : FloatLayout := ⟨-5, 16⟩

namespace FloatLayout

def pointAfter (digits : List Char) (whole : Nat) : List Char :=
  if digits.length ≤ whole then
    digits ++ List.replicate (whole - digits.length) '0' ++ ['.', '0']
  else digits.take whole ++ '.' :: digits.drop whole

/-- The text of a decimal whose leading digit has the weight `10 ^ lead`. -/
def arrange (layout : FloatLayout) (digits : List Char) (lead : Int) : List Char :=
  if layout.minPositional ≤ lead ∧ lead < layout.maxPositional then
    if 0 ≤ lead then pointAfter digits (lead.toNat + 1)
    else '0' :: '.' :: List.replicate ((-lead).toNat - 1) '0' ++ digits
  else
    let mantissa :=
      match digits with
      | [d] => [d]
      | d :: rest => d :: '.' :: rest
      | [] => []
    mantissa ++ 'e' :: (if lead < 0 then '-' else '+') :: Integer.digits lead.natAbs

def chars (layout : FloatLayout) (x : Binary64) : List Char :=
  let magnitude :=
    if x.isZero then ['0', '.', '0']
    else
      let decimal := x.shortest
      let digits := Integer.digits decimal.digits
      layout.arrange digits (decimal.exponent + digits.length - 1)
  if x.negative then '-' :: magnitude else magnitude

end FloatLayout

def Number.chars : Number → List Char
  | .int value => Integer.text value
  | .float value => FloatLayout.json.chars value

/-! ## Values -/

namespace Json

mutual

def chars : Json → List Char
  | .null => ['n', 'u', 'l', 'l']
  | .bool true => ['t', 'r', 'u', 'e']
  | .bool false => ['f', 'a', 'l', 's', 'e']
  | .number value => value.chars
  | .string value => quoteChars value.toList
  | .array items => '[' :: itemChars items ++ [']']
  | .object fields => '\x7b' :: fieldChars fields ++ ['\x7d']

def itemChars : List Json → List Char
  | [] => []
  | [item] => item.chars
  | item :: rest => item.chars ++ ',' :: itemChars rest

def fieldChars : List (String × Json) → List Char
  | [] => []
  | [(key, value)] => quoteChars key.toList ++ ':' :: value.chars
  | (key, value) :: rest => quoteChars key.toList ++ ':' :: value.chars ++ ',' :: fieldChars rest

end

def text (value : Json) : String := String.ofList value.chars

/-- The text that a scalar contributes to a path: a string stands for itself, any other value for
its JSON text. -/
def scalarText : Json → String
  | .string value => value
  | other => other.text

end Json

end TemplateBundler
