/-!
Labels beyond ASCII, written in ASCII. The characters of ASCII come first, then a hyphen, and then
numbers that say which other characters there are and where they stand. A number is written in digits to
base 36 whose weights depend on the numbers before it.
-/

namespace BraceLint.Punycode

/-- A digit to base 36, letters first. -/
def digit (n : Nat) : Char :=
  if n < 26 then Char.ofNat (0x61 + n) else Char.ofNat (0x30 + n - 26)

/-- The value of a digit to base 36. -/
def value? (c : Char) : Option Nat :=
  if 'a' ≤ c && c ≤ 'z' then some (c.toNat - 0x61)
  else if c.isDigit then some (c.toNat - 0x30 + 26)
  else none

/-- The least value of a digit that is not the last one of its number. -/
def threshold (bias position : Nat) : Nat :=
  if position ≤ bias then 1 else if bias + 26 ≤ position then 26 else position - bias

/-- The bias after a number. -/
def adapt (delta points : Nat) (first : Bool) : Nat :=
  let delta := if first then delta / 700 else delta / 2
  shrink 16 (delta + delta / points) 0
where
  /-- Divides until the value is small; sixteen divisions are enough for any code point. -/
  shrink : Nat → Nat → Nat → Nat
    | 0, delta, k => k + 36 * delta / (delta + 38)
    | bound + 1, delta, k =>
      if 455 < delta then shrink bound (delta / 35) (k + 36) else k + 36 * delta / (delta + 38)

/-! ### Writing -/

/-- A number in digits, starting at a position. -/
def digits (bias : Nat) : (bound number position : Nat) → List Char
  | 0, _, _ => []
  | bound + 1, number, position =>
    let least := threshold bias position
    if number < least then [digit number]
    else
      digit (least + (number - least) % (36 - least)) ::
        digits bias bound ((number - least) / (36 - least)) (position + 36)

/-- What is known while the code points of a label are written one after the other. -/
structure State where
  delta : Nat
  bias : Nat
  written : Nat
  output : List Char

/-- Writes every occurrence of one code point in a label. -/
def writePoint (label : List Char) (basic point : Nat) (state : State) : State :=
  let after := label.foldl (fun state c =>
    if c.toNat < point then { state with delta := state.delta + 1 }
    else if c.toNat = point then
      { delta := 0
        bias := adapt state.delta (state.written + 1) (state.written == basic)
        written := state.written + 1
        output := state.output ++ digits state.bias 64 state.delta 36 }
    else state) state
  { after with delta := after.delta + 1 }

/-- The code points beyond ASCII of a label, each once, in ascending order. -/
def points (label : List Char) : List Nat :=
  ((label.map Char.toNat).filter (0x80 ≤ ·)).eraseDups.mergeSort (· ≤ ·)

/-- The ASCII form of a label without its mark. -/
def encode (label : List Char) : List Char :=
  let plain := label.filter (·.toNat < 0x80)
  let start : State :=
    { delta := 0
      bias := 72
      written := plain.length
      output := if plain.isEmpty then [] else plain ++ ['-'] }
  let step (entry : State × Nat) (point : Nat) : State × Nat :=
    let state := { entry.1 with
      delta := entry.1.delta + (point - entry.2) * (entry.1.written + 1) }
    (writePoint label plain.length point state, point + 1)
  ((points label).foldl step (start, 0x80)).1.output

/-! ### Reading -/

/-- What is known while the numbers of a label are read. -/
structure Reading where
  /-- The characters so far. -/
  output : List Char
  /-- The code point that was put in last. -/
  point : Nat := 0x80
  bias : Nat := 72
  /-- Where the number started to count. -/
  start : Nat := 0
  /-- The number, as far as it is known. -/
  index : Nat := 0
  /-- What the next digit is worth. -/
  weight : Nat := 1
  /-- The position of the next digit in its number. -/
  position : Nat := 36

namespace Reading

/-- Puts in the character that a number stands for. -/
def putIn? (reading : Reading) : Option Reading :=
  let length := reading.output.length + 1
  let point := reading.point + reading.index / length
  let place := reading.index % length
  if point.isValidChar then
    some
      { output := reading.output.take place ++ Char.ofNat point :: reading.output.drop place
        point := point
        bias := adapt (reading.index - reading.start) length (reading.start == 0)
        start := place + 1
        index := place + 1 }
  else
    none

/-- Reads digits to the end. A number that does not end there is none. -/
def finish? (reading : Reading) : List Char → Option (List Char)
  | [] => if reading.position = 36 then some reading.output else none
  | c :: rest => do
    let digit ← value? c
    let least := threshold reading.bias reading.position
    let next := { reading with index := reading.index + digit * reading.weight }
    if digit < least then
      let next ← next.putIn?
      next.finish? rest
    else
      let weight := reading.weight * (36 - least)
      finish? { next with weight := weight, position := reading.position + 36 } rest

end Reading

/-- The label that an ASCII form without its mark stands for. -/
def decode? (text : List Char) : Option (List Char) :=
  let digits := (text.reverse.takeWhile (· != '-')).reverse
  let plain := text.take (text.length - digits.length - 1)
  let digits := if plain.isEmpty then text else digits
  Reading.finish? { output := plain } digits

end BraceLint.Punycode
