import BraceLint.Text.Basic

/-!
Tables of code points, written as text. A table is a list of entries with blanks between them, in
ascending order. Numbers are hexadecimal: `41-5A` is a range and `5F` a single code point. An entry may
say what its code points stand for: `41-5A=61` takes the range to the one that starts at `61`,
`100-12E/2=101` takes every second code point of the range to the one `101` as far from the start of its
own, and `BC=31.2044.34` takes one code point to three.
-/

namespace BraceLint.Text

/-- Splits a text at every occurrence of a mark. -/
def splitOn (mark : Char) (text : Text) : List Text :=
  text.foldr (fun c parts =>
    if c = mark then [] :: parts
    else
      match parts with
      | first :: others => (c :: first) :: others
      | [] => [[c]]) [[]]

/-- Whether a code point lies in one of the ranges, whose ends count. -/
def inRanges (ranges : List (Nat × Nat)) (n : Nat) : Bool :=
  ranges.any fun range => range.1 ≤ n && n ≤ range.2

namespace Table

/-- The value of a hexadecimal digit. -/
def digit (c : Char) : Nat :=
  if c.isDigit then c.toNat - 0x30 else c.toNat - 0x37

/-- The number that hexadecimal digits stand for. -/
def number (digits : Text) : Nat :=
  digits.foldl (fun value c => 16 * value + digit c) 0

/-- A range of code points, or a single one. -/
def range (text : Text) : Nat × Nat :=
  match splitOn '-' text with
  | [first, last] => (number first, number last)
  | _ => (number text, number text)

/-- The entries of a table as texts. -/
def words (table : String) : List Text :=
  let blanks := table.toList.map fun c => if c = '\n' then ' ' else c
  (splitOn ' ' blanks).filter fun word => !word.isEmpty

/-- The ranges of a table. -/
def ranges (table : String) : List (Nat × Nat) :=
  (words table).map range

/-- An entry of a table that says what its code points stand for. -/
structure Entry where
  first : Nat
  last : Nat
  /-- The distance between two code points of the entry. -/
  step : Nat
  /-- What the first code point stands for. -/
  image : List Nat
deriving Repr

namespace Entry

/-- Whether an entry holds a code point. -/
def covers (entry : Entry) (n : Nat) : Bool :=
  entry.first ≤ n && n ≤ entry.last && (n - entry.first) % entry.step == 0

/-- What a code point of the entry stands for: as far from the image of the first one as it is from the
first one itself. -/
def imageOf (entry : Entry) (n : Nat) : List Nat :=
  match entry.image with
  | [] => []
  | start :: rest => (start + (n - entry.first)) :: rest

/-- Reads an entry. -/
def ofText (text : Text) : Entry :=
  match splitOn '=' text with
  | [key, image] =>
    let image := (splitOn '.' image).map number
    match splitOn '/' key with
    | [pair, step] => ⟨(range pair).1, (range pair).2, number step, image⟩
    | _ => ⟨(range key).1, (range key).2, 1, image⟩
  | _ => ⟨(range text).1, (range text).2, 1, []⟩

end Entry

/-- The entries of a table. -/
def entries (table : String) : List Entry :=
  (words table).map Entry.ofText

/-- What a code point stands for in a table, if the table has it. -/
def image? (table : List Entry) (n : Nat) : Option (List Nat) :=
  (table.find? fun entry => entry.covers n).map fun entry => entry.imageOf n

end Table

end BraceLint.Text
