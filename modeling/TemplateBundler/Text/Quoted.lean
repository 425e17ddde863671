import TemplateBundler.Text.Printable

/-!
# Quoted: string literals in diagnostics

A literal stands in double quotes, and what cannot be shown in it is escaped.
-/

namespace TemplateBundler.Text.Quoted

/-- How a character is shown: the double quote and the backslash escaped, four control characters
by a letter, and every other character that cannot be shown by its number. -/
def escape (c : Char) : List Char :=
  if c = '"' then ['\\', '"']
  else if c = '\\' then ['\\', '\\']
  else if c.toNat = 0 then ['\\', '0']
  else if c = '\t' then ['\\', 't']
  else if c = '\n' then ['\\', 'n']
  else if c = '\r' then ['\\', 'r']
  else if isPrintable c then [c]
  else ['\\', 'u', '\x7b'] ++ Nat.toDigits 16 c.toNat ++ ['\x7d']

def encode (s : String) : String :=
  String.ofList ('"' :: s.toList.flatMap escape ++ ['"'])

end TemplateBundler.Text.Quoted
