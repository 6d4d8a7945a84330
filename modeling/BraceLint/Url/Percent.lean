/-!
Percent encoding. Each part of a URL has its own set of characters that cannot stand in it; such a
character is written as the bytes of its UTF-8 form, each a percent sign and two capital hexadecimal
digits. Characters beyond printable ASCII are in every set.
-/

namespace BraceLint.Percent

/-- Control characters and everything beyond ASCII. -/
def control (c : Char) : Bool :=
  c.toNat < 0x20 || 0x7E < c.toNat

/-- What cannot stand in a fragment. -/
def fragment (c : Char) : Bool :=
  control c || [' ', '\x22', '<', '>', '\x60'].contains c

/-- What cannot stand in a query. -/
def query (c : Char) : Bool :=
  control c || [' ', '\x22', '#', '<', '>'].contains c

/-- What cannot stand in the query of a URL with a well-known scheme. -/
def specialQuery (c : Char) : Bool :=
  query c || c == '\x27'

/-- What cannot stand in a path. -/
def path (c : Char) : Bool :=
  fragment c || ['#', '?', '\x7b', '\x7d'].contains c

/-- What cannot stand in a user name or a password. -/
def userInfo (c : Char) : Bool :=
  path c || ['/', ':', ';', '=', '@', '[', '\\', ']', '^', '|'].contains c

/-- What cannot stand in the name of a file or a directory. -/
def fileName (c : Char) : Bool :=
  path c || ['/', '%', '\\'].contains c

/-- A capital hexadecimal digit. -/
def digit (n : Nat) : Char :=
  if n < 10 then Char.ofNat (0x30 + n) else Char.ofNat (0x37 + n)

/-- A byte as a percent sign and two digits. -/
def encodeByte (byte : UInt8) : List Char :=
  ['%', digit (byte.toNat / 16), digit (byte.toNat % 16)]

/-- Writes the characters of a set as bytes, and all others as themselves. -/
def encode (set : Char → Bool) (text : List Char) : List Char :=
  text.flatMap fun c => if set c then (String.utf8EncodeChar c).flatMap encodeByte else [c]

/-- The value of a hexadecimal digit. -/
def digit? (c : Char) : Option Nat :=
  if '0' ≤ c && c ≤ '9' then some (c.toNat - 0x30)
  else if 'a' ≤ c && c ≤ 'f' then some (c.toNat - 0x57)
  else if 'A' ≤ c && c ≤ 'F' then some (c.toNat - 0x37)
  else none

/-- The bytes of a text, with percent signs and their digits resolved. -/
def decode : List Char → List UInt8
  | '%' :: a :: b :: rest =>
    match digit? a, digit? b with
    | some high, some low => (16 * high + low).toUInt8 :: decode rest
    | _, _ => '%'.toUInt8 :: decode (a :: b :: rest)
  | c :: rest => String.utf8EncodeChar c ++ decode rest
  | [] => []

end BraceLint.Percent
