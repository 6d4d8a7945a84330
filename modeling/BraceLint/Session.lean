import BraceLint.FixLoop
import BraceLint.Report.Terminal

/-!
Working on one text step by step. A step that fails leaves everything as it was.
-/

namespace BraceLint

/-- The text one works on, where it is from, and the rules it is checked by. -/
structure Session where
  text : Text
  specifier : Url
  rules : List Curly

namespace Session

/-- What can be done in a session. -/
inductive Step where
  | setText (text : Text)
  | appendText (text : Text)
  | setRules (rules : List Curly)
  | setSpecifier (specifier : Url)
  | lint
  | format
  /-- Applies all fixes once. -/
  | fixAll
  /-- Applies the fix of one diagnostic, given by its index. -/
  | fixOne (index : Nat)
  /-- Applies fixes until none is left. -/
  | fixFully

/-- What a step gives. -/
inductive Answer where
  | size (bytes : Nat)
  | done
  | specifier (url : Url)
  | diagnostics (found : List Diagnostic)
  | formatted (lines : List String)
  | text (text : Text)

/-- Why a step fails. -/
inductive Failure where
  | lint (error : LintError)
  | edit (failure : Edit.Failure)
  | fix (error : FixError)
  /-- A diagnostic cannot be shown. -/
  | unshowable

/-- What linting finds in the text of a session. -/
def diagnostics (parser : Parser) (session : Session) : Except Failure (List Diagnostic) :=
  (lintText parser (session.rules.map Curly.toRule) session.specifier session.text).mapError .lint

/-- Changes the text of a session. -/
def edited (session : Session) (text : Text) : Session × Answer :=
  ({ session with text := text }, .text text)

/-- Applies the fixes of some of the diagnostics of the text. -/
def applied (parser : Parser) (session : Session)
    (choose : List Diagnostic → List Diagnostic) : Except Failure (Session × Answer) := do
  let found ← session.diagnostics parser
  let text ← (applyFirstFixes session.text (choose found)).mapError .edit
  return session.edited text

/-- Takes a step. -/
def step (parser : Parser) (session : Session) : Step → Except Failure (Session × Answer)
  | .setText text => return ({ session with text := text }, .size text.size)
  | .appendText text =>
    let whole := session.text ++ text
    return ({ session with text := whole }, .size (Text.size whole))
  | .setRules rules => return ({ session with rules := rules }, .done)
  | .setSpecifier specifier =>
    return ({ session with specifier := specifier }, .specifier specifier)
  | .lint => do return (session, .diagnostics (← session.diagnostics parser))
  | .format => do
    let found ← session.diagnostics parser
    match found.mapM (Terminal.render? · session.text) with
    | some lines => return (session, .formatted lines)
    | none => .error .unshowable
  | .fixAll => session.applied parser id
  | .fixOne index => session.applied parser fun found => found[index]?.toList
  | .fixFully => do
    let rules := session.rules.map Curly.toRule
    let text ← (fixText parser rules session.specifier session.text).mapError .fix
    return session.edited text

/-- Takes steps one after the other. -/
def run (parser : Parser) : Session → List Step → List (Except Failure Answer)
  | _, [] => []
  | session, step :: steps =>
    match session.step parser step with
    | .ok (session, answer) => .ok answer :: run parser session steps
    | .error failure => .error failure :: run parser session steps

end Session

end BraceLint
