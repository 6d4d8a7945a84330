import BraceLint.Lint

/-!
The log of linting a file. Each step is logged when it ends, so what it consists of comes before it.
-/

namespace BraceLint

/-- A line of the log. -/
inductive LogLine where
  /-- A step ended. -/
  | took (step : String)
  /-- A file was linted, with this many diagnostics. -/
  | counted (count : Nat) (specifier : Url)
deriving DecidableEq, Repr

namespace LogLine

/-- The name of parsing in the log. -/
def parsing : String := "ast_parser.parse_program"

/-- The name of running the rules in the log. -/
def checking : String := "Linter::lint_with_ast"

/-- The name of linting a file in the log. -/
def linting : String := "Linter::lint_file"

/-- The text of a line, given the text of the time a step took. -/
def render (time : String) : LogLine → String
  | .took step => step ++ " took " ++ time
  | .counted count specifier => toString count ++ " diagnostics in " ++ specifier.render

end LogLine

/-- The log of linting a file with the given outcome. -/
def lintLog (rules : List Rule) (specifier : Url)
    (outcome : Except LintError (List Diagnostic)) : List LogLine :=
  match outcome with
  | .error _ => [.took LogLine.parsing, .took LogLine.linting]
  | .ok diagnostics =>
    [.took LogLine.parsing] ++ rules.map (fun rule => .took rule.code) ++
      [.counted diagnostics.length specifier, .took LogLine.checking, .took LogLine.linting]

end BraceLint
