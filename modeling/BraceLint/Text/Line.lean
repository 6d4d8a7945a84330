import BraceLint.Text.Basic

/-!
The lines of a text as a reader sees them: a line ends at a line feed, one carriage return before the
line feed belongs to the line end, and a text that ends in a line feed has no empty last line.
-/

namespace BraceLint.Text

/-- The line without the carriage return of its line end. -/
def dropReturn (line : Text) : Text :=
  if line.getLast? = some '\r' then line.dropLast else line

/-- Lines of a text, given the characters of the current line read so far, latest first. -/
def linesFrom : (current : Text) → Text → List Text
  | [], [] => []
  | current, [] => [current.reverse]
  | current, c :: text =>
    if c = '\n' then dropReturn current.reverse :: linesFrom [] text
    else linesFrom (c :: current) text

/-- The lines of a text without their line ends. -/
def lines (text : Text) : List Text :=
  linesFrom [] text

/-- The line with the given index, or the empty line when the text has no such line. -/
def line (text : Text) (index : Nat) : Text :=
  (lines text)[index]?.getD []

end BraceLint.Text
