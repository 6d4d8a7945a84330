import BraceLint.Text.Basic

/-!
Line and column of a byte offset. A line ends at a line feed and at nothing else, and a column counts
characters. Every offset inside a character has the line and column of that character, and the offset
just past the text has a position too.
-/

namespace BraceLint

/-- A place in a text: line and column from zero, and the byte offset it was computed from. -/
structure Position where
  line : Nat
  column : Nat
  byte : Nat
deriving DecidableEq, Repr

/-- The two ends of what a diagnostic is about. -/
structure Range where
  start : Position
  stop : Position
deriving DecidableEq, Repr

namespace Text

/-- Walks to the character that holds the byte at `offset`, counting from a given line and column.
There is no such place beyond the end of the text. -/
def locate? : Text → (offset line column : Nat) → Option (Nat × Nat)
  | [], offset, line, column => if offset = 0 then some (line, column) else none
  | c :: text, offset, line, column =>
    if offset < c.utf8Size then some (line, column)
    else if c = '\n' then locate? text (offset - c.utf8Size) (line + 1) 0
    else locate? text (offset - c.utf8Size) line (column + 1)

/-- The position of a byte offset, if the offset is not beyond the text. -/
def position? (text : Text) (offset : Nat) : Option Position :=
  (locate? text offset 0 0).map fun place => ⟨place.1, place.2, offset⟩

end Text

end BraceLint
