import BraceLint.Diagnostic
import BraceLint.Text.Line

/-!
Diagnostics for a terminal: the message, the place, the line of the source and an underline below it.
A range on one line is underlined from column to column. A range over several lines is underlined to
the end of its first line, whose length is counted in bytes. The underline is never empty.
-/

namespace BraceLint.Terminal

/-- Colours of a terminal. -/
inductive Colour where
  | gray
  | cyan
  | red
deriving DecidableEq, Repr

/-- The code that switches to a colour. -/
def Colour.code : Colour → String
  | .gray => "38;5;8"
  | .cyan => "38;5;14"
  | .red => "31"

/-- A text in a colour. -/
def paint (colour : Colour) (text : String) : String :=
  "\x1b[" ++ colour.code ++ "m" ++ text ++ "\x1b[0m"

/-- A number of blanks. -/
def blanks (count : Nat) : String :=
  String.ofList (List.replicate count ' ')

/-- How many carets underline a range whose first line is given. A range on one line that runs
backwards has no underline. -/
def caretCount? (range : Range) (line : Text) : Option Nat :=
  if range.start.line = range.stop.line then
    if range.start.column ≤ range.stop.column then
      some (max 1 (range.stop.column - range.start.column))
    else
      none
  else
    some (max 1 (line.size - range.start.column))

/-- A diagnostic about a source, as a terminal shows it. -/
def render? (diagnostic : Diagnostic) (source : Text) : Option String := do
  let start := diagnostic.range.start
  let line := source.line start.line
  let carets ← caretCount? diagnostic.range line
  let number := toString (start.line + 1)
  let gutter := blanks number.length
  let place := diagnostic.specifier.render ++ ":" ++ number ++ ":" ++ toString (start.column + 1)
  let underline := paint .red (String.ofList (List.replicate carets '^'))
  let hint := (diagnostic.hint.map fun hint => [gutter ++ " = hint: " ++ hint]).getD []
  return String.intercalate "\n" ([
    "(" ++ paint .gray diagnostic.code ++ ") " ++ diagnostic.message,
    paint .cyan (gutter ++ "--> " ++ place),
    gutter ++ " |",
    number ++ " | " ++ String.ofList line,
    gutter ++ " | " ++ blanks start.column ++ underline] ++ hint)

end BraceLint.Terminal
