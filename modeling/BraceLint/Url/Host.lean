import BraceLint.Url.Domain
import BraceLint.Url.Percent

/-!
Hosts of URLs: names, addresses of four bytes and addresses of eight groups. A name whose last label is
a number is an address.
-/

namespace BraceLint

/-- The host of a URL. -/
inductive Host where
  | domain (name : String)
  | ipv4 (address : Nat)
  | ipv6 (groups : List Nat)
deriving DecidableEq, Repr

namespace Host

open Text (splitOn)

/-- Characters that no name of a host holds. -/
def isForbidden (c : Char) : Bool :=
  c.toNat ≤ 0x20 || c.toNat == 0x7F ||
    ['#', '/', ':', '<', '>', '?', '@', '[', '\\', ']', '^', '|', '%'].contains c

/-- A number with the given digits. -/
def number? (base : Nat) (digits : List Char) : Option Nat :=
  digits.foldl (fun total c => do
    let value ← Percent.digit? c
    if value < base then return (← total) * base + value else none) (some 0)

/-- A part of an address: decimal, octal after a zero, or hexadecimal after `0x`. -/
def addressPart? (part : List Char) : Option Nat :=
  match part with
  | [] => none
  | '0' :: 'x' :: digits => number? 16 digits
  | '0' :: 'X' :: digits => number? 16 digits
  | ['0'] => some 0
  | '0' :: digits => number? 8 digits
  | digits => number? 10 digits

/-- The labels of a name, a single dot at its end left aside. -/
def labels (name : List Char) : List (List Char) :=
  let found := splitOn '.' name
  if found.getLast? = some [] && 1 < found.length then found.dropLast else found

/-- Whether the last label of a name is a number. -/
def endsInNumber (name : List Char) : Bool :=
  match (labels name).getLast? with
  | some last =>
    !last.isEmpty && (last.all Char.isDigit ||
      (last.take 2 == ['0', 'x'] && (addressPart? last).isSome) ||
      (last.take 2 == ['0', 'X'] && (addressPart? last).isSome))
  | none => false

/-- The address that at most four numbers make, the last of them filling what is left. -/
def address? (name : List Char) : Option Nat := do
  let parts ← (labels name).mapM addressPart?
  let last ← parts.getLast?
  let high := parts.dropLast
  guard (parts.length ≤ 4 && high.all (· < 256) && last < Nat.pow 256 (5 - parts.length))
  let leading := high.foldl (fun value byte => 256 * value + byte) 0
  return Nat.pow 256 (4 - high.length) * leading + last

/-- One group of a long address: up to four hexadecimal digits. -/
def group? (digits : List Char) : Option Nat := do
  guard (1 ≤ digits.length && digits.length ≤ 4)
  number? 16 digits

/-- A part of a short address inside a long one: a decimal number without zeros before it. -/
def byte? (digits : List Char) : Option Nat := do
  guard (!digits.isEmpty && (digits.length = 1 || digits.head? != some '0'))
  let byte ← number? 10 digits
  guard (byte < 256)
  return byte

/-- The two groups that a short address makes at the end of a long one. -/
def shortGroups? (text : List Char) : Option (List Nat) := do
  let bytes ← (splitOn '.' text).mapM byte?
  guard (bytes.length = 4)
  let address := bytes.foldl (fun total byte => total * 256 + byte) 0
  return [address / 65536, address % 65536]

/-- The groups of one side of a long address. The last part of the last side may be a short address. -/
def groups? (side : List Char) (isLast : Bool) : Option (List Nat) :=
  if side.isEmpty then some []
  else
    let parts := splitOn ':' side
    match parts.getLast? with
    | some last =>
      if isLast && last.contains '.' then
        return (← parts.dropLast.mapM group?) ++ (← shortGroups? last)
      else parts.mapM group?
    | none => none

/-- Splits at the first pair of colons. -/
def splitGap : List Char → Option (List Char × List Char)
  | ':' :: ':' :: rest => some ([], rest)
  | c :: rest => (splitGap rest).map fun sides => (c :: sides.1, sides.2)
  | [] => none

/-- Reads a long address. A pair of colons stands for all groups that are missing. -/
def longAddress? (text : List Char) : Option (List Nat) :=
  match splitGap text with
  | some (left, right) => do
    let high ← groups? left false
    let low ← groups? right true
    guard (high.length + low.length ≤ 7)
    return high ++ List.replicate (8 - high.length - low.length) 0 ++ low
  | none => do
    let groups ← groups? text true
    guard (groups.length = 8)
    return groups

/-- Reads the host of a URL with a well-known scheme. -/
def special? (text : List Char) : Option Host :=
  match text with
  | '[' :: rest => do
    guard (rest.getLast? = some ']')
    return .ipv6 (← longAddress? rest.dropLast)
  | text => do
    let decoded ← String.fromUTF8? (ByteArray.mk (Percent.decode text).toArray)
    let name ← Domain.ascii? decoded.toList
    guard (!name.isEmpty && !name.any isForbidden)
    if endsInNumber name then return .ipv4 (← address? name)
    else return .domain (String.ofList name)

/-- Whether a character cannot stand in the host of a URL with any other scheme. Control characters are
encoded there, and percent signs are kept. -/
def isPlainForbidden (c : Char) : Bool :=
  isForbidden c && c != '%' && (' ' ≤ c || ['\x00', '\t', '\n', '\r'].contains c) && c.toNat != 0x7F

/-- Reads the host of a URL with any other scheme. -/
def plain? (text : List Char) : Option Host :=
  match text with
  | '[' :: rest => do
    guard (rest.getLast? = some ']')
    return .ipv6 (← longAddress? rest.dropLast)
  | text => do
    guard (!text.any isPlainForbidden)
    return .domain (String.ofList (Percent.encode Percent.control text))

/-- A number in lower-case hexadecimal digits. -/
def hexadecimal (n : Nat) : String :=
  String.ofList (Nat.toDigits 16 n)

/-- Where the longest run of at least two zero groups starts, and how long it is. The first of equally
long runs counts. -/
def longestGap (groups : List Nat) : Option (Nat × Nat) :=
  let runs := (List.range groups.length).map fun i =>
    (i, ((groups.drop i).takeWhile (· == 0)).length)
  let best := runs.foldl (fun best run => if best.2 < run.2 then run else best) (0, 1)
  if best.2 < 2 then none else some best

/-- The text of a short address. -/
def renderShort (address : Nat) : String :=
  String.intercalate "." ([3, 2, 1, 0].map fun i => toString (address / Nat.pow 256 i % 256))

/-- The text of a long address without brackets. -/
def renderLong (groups : List Nat) : String :=
  let join (part : List Nat) := String.intercalate ":" (part.map hexadecimal)
  match longestGap groups with
  | some (start, length) => join (groups.take start) ++ "::" ++ join (groups.drop (start + length))
  | none => join groups

/-- The host as it stands in a URL. -/
def render : Host → String
  | .domain name => name
  | .ipv4 address => renderShort address
  | .ipv6 groups => "[" ++ renderLong groups ++ "]"

end Host

end BraceLint
