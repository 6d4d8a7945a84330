import BraceLint.Text.Basic

/-!
JSON values and their two layouts: everything on one line, or every item on a line of its own, two
blanks further in than what it is part of. Quotes, backslashes and control characters are escaped, and
every other character stands for itself.
-/

namespace BraceLint

/-- A JSON value. The fields of an object are in order. -/
inductive Json where
  | null
  | number (value : Nat)
  | string (value : String)
  | array (items : List Json)
  | object (fields : List (String × Json))
deriving Repr

namespace Json

/-- A lower-case hexadecimal digit. -/
def hexDigit (n : Nat) : Char :=
  if n < 10 then Char.ofNat (0x30 + n) else Char.ofNat (0x57 + n)

/-- A character as it stands in a JSON string. -/
def escape (c : Char) : Text :=
  if c == '\x22' then ['\\', '\x22']
  else if c == '\\' then ['\\', '\\']
  else if c == '\x08' then ['\\', 'b']
  else if c == '\x0c' then ['\\', 'f']
  else if c == '\n' then ['\\', 'n']
  else if c == '\r' then ['\\', 'r']
  else if c == '\t' then ['\\', 't']
  else if c.toNat < 0x20 then
    ['\\', 'u', '0', '0', hexDigit (c.toNat / 16), hexDigit (c.toNat % 16)]
  else [c]

/-- A JSON string. -/
def quoted (value : String) : Text :=
  ['\x22'] ++ value.toList.flatMap escape ++ ['\x22']

/-- The decimal digits of a number. -/
def digits (n : Nat) : Text :=
  Nat.toDigits 10 n

mutual

/-- A value on one line. -/
def compact : Json → Text
  | .null => ['n', 'u', 'l', 'l']
  | .number value => digits value
  | .string value => quoted value
  | .array items => ['['] ++ compactItems items ++ [']']
  | .object fields => ['\x7b'] ++ compactFields fields ++ ['\x7d']

/-- Items with commas between them. -/
def compactItems : List Json → Text
  | [] => []
  | [item] => compact item
  | item :: rest => compact item ++ [','] ++ compactItems rest

/-- Fields with commas between them. -/
def compactFields : List (String × Json) → Text
  | [] => []
  | [(name, value)] => quoted name ++ [':'] ++ compact value
  | (name, value) :: rest => quoted name ++ [':'] ++ compact value ++ [','] ++ compactFields rest

end

/-- The start of a line at a depth. -/
def newLine (depth : Nat) : Text :=
  '\n' :: List.replicate (2 * depth) ' '

mutual

/-- A value with every item on a line of its own. An empty list stays on its line. -/
def pretty (depth : Nat) : Json → Text
  | .null => ['n', 'u', 'l', 'l']
  | .number value => digits value
  | .string value => quoted value
  | .array [] => ['[', ']']
  | .array items => ['['] ++ prettyItems (depth + 1) items ++ newLine depth ++ [']']
  | .object [] => ['\x7b', '\x7d']
  | .object fields => ['\x7b'] ++ prettyFields (depth + 1) fields ++ newLine depth ++ ['\x7d']

/-- Items, each on a line of its own. -/
def prettyItems (depth : Nat) : List Json → Text
  | [] => []
  | [item] => newLine depth ++ pretty depth item
  | item :: rest => newLine depth ++ pretty depth item ++ [','] ++ prettyItems depth rest

/-- Fields, each on a line of its own. -/
def prettyFields (depth : Nat) : List (String × Json) → Text
  | [] => []
  | [(name, value)] => newLine depth ++ quoted name ++ [':', ' '] ++ pretty depth value
  | (name, value) :: rest =>
    newLine depth ++ quoted name ++ [':', ' '] ++ pretty depth value ++ [','] ++
      prettyFields depth rest

end

end Json

end BraceLint
