import BraceLint.Lint

/-!
Fixing a file. A pass lints the text and applies the first fix of every diagnostic; fixes inside one
another have to wait for the next pass. Passes go on until no diagnostic has a fix, and at most a
fixed number of times.
-/

namespace BraceLint

/-- Why a file cannot be fixed. -/
inductive FixError where
  /-- A pass could not lint the text. -/
  | lint (error : LintError)
  /-- A pass could not apply the fixes. -/
  | edit (failure : Edit.Failure)
  /-- Every pass found something to fix. -/
  | unsettled
deriving DecidableEq, Repr

/-- How many passes fixing a file takes at most. -/
def maxPasses : Nat := 16

/-- Whether nothing is left that could be fixed. -/
def isSettled (diagnostics : List Diagnostic) : Bool :=
  diagnostics.all fun diagnostic => diagnostic.fixes.isEmpty

/-- What linting finds in a text of a file. -/
def lintText (parser : Parser) (rules : List Rule) (specifier : Url) (text : Text) :
    Except LintError (List Diagnostic) :=
  lintFile parser rules (SourceFile.ofUrl specifier text)

/-- Fixes a text with at most the given number of passes. -/
def fixWithin (parser : Parser) (rules : List Rule) (specifier : Url) :
    Nat → Text → Except FixError Text
  | 0, _ => .error .unsettled
  | passes + 1, text =>
    match lintText parser rules specifier text with
    | .error error => .error (.lint error)
    | .ok diagnostics =>
      if isSettled diagnostics then .ok text
      else
        match applyFirstFixes text diagnostics with
        | .error failure => .error (.edit failure)
        | .ok fixed => fixWithin parser rules specifier passes fixed

/-- Fixes the text of a file until nothing is left to fix. -/
def fixText (parser : Parser) (rules : List Rule) (specifier : Url) (text : Text) :
    Except FixError Text :=
  fixWithin parser rules specifier maxPasses text

namespace FixError

/-- The error of fixes that never end, in words. -/
def unsettledMessage : String :=
  "Fixes did not settle after " ++ toString maxPasses ++ " passes"

end FixError

end BraceLint
