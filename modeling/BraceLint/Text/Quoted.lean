import BraceLint.Text.Printable

/-!
Texts between double quotes, as descriptions of values show them. What is not printable is written as
an escape.
-/

namespace BraceLint.Text

/-- A number in lower-case hexadecimal digits. -/
def hexDigits (n : Nat) : List Char :=
  Nat.toDigits 16 n

/-- A character as it stands between double quotes. -/
def quoteChar (c : Char) : List Char :=
  if c == '\x00' then ['\\', '0']
  else if c == '\t' then ['\\', 't']
  else if c == '\n' then ['\\', 'n']
  else if c == '\r' then ['\\', 'r']
  else if c == '\x22' || c == '\\' then ['\\', c]
  else if isPrintable c then [c]
  else ['\\', 'u', '\x7b'] ++ hexDigits c.toNat ++ ['\x7d']

/-- A text in double quotes. -/
def quote (text : List Char) : String :=
  String.ofList (['\x22'] ++ text.flatMap quoteChar ++ ['\x22'])

end BraceLint.Text
