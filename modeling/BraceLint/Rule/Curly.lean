import BraceLint.Rule.Basic

/-!
The rule that asks for braces. It reports every control statement whose body is not a block. Only the
consequent of an `if` counts as its body: an `else if` is an `if` statement of its own, and a plain
`else` may go without braces. The repair puts braces around the body and starts the body on a new
line.
-/

namespace BraceLint

/-- The rule, with or without repairs. -/
structure Curly where
  /-- Whether a repair is offered. -/
  fix : Bool
deriving DecidableEq, Repr

namespace Curly

/-- The rule that offers repairs. -/
def fixable : Curly := ⟨true⟩

/-- The rule that only reports. -/
def reportOnly : Curly := ⟨false⟩

/-- The code of the rule. -/
def code : String := "curly"

/-- What to do about a finding. -/
def hint : String := "Add curly braces around the body of this statement"

/-- What the repair does. -/
def fixDescription : String := "Add curly braces"

/-- What is wrong with a statement. -/
def message (kind : Control) : String :=
  "Use curly braces for \x60" ++ kind.wording ++ "\x60 statement"

/-- A text in braces, on a new line. -/
def brace (body : Text) : Text :=
  '\x7b' :: '\n' :: (body ++ ['\x7d'])

/-- The repair that puts the bytes of a span in braces. -/
def wrap (text : Text) (body : Span) : Except Fault Fix :=
  match text.slice? body with
  | some inner => .ok ⟨fixDescription, [⟨body, brace inner⟩]⟩
  | none => .error (.notInText body)

/-- The finding for a statement without braces. -/
def finding (rule : Curly) (text : Text) (statement : Unbraced) : Except Fault Finding := do
  let fixes ← if rule.fix then (do return [← wrap text statement.body]) else .ok []
  return {
    span := statement.span
    code := code
    message := message statement.kind
    hint := some hint
    fixes := fixes }

/-- The rule as one of many. -/
def toRule (rule : Curly) : Rule where
  code := code
  check text tree := tree.unbraced.mapM (rule.finding text)

/-- The rule in words that show its setting. -/
def describe (rule : Curly) : String :=
  "Curly \x7b fix: " ++ (if rule.fix then "true" else "false") ++ " \x7d"

end Curly

end BraceLint
