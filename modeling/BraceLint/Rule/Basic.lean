import BraceLint.Diagnostic
import BraceLint.Syntax.Tree

/-!
Rules. A rule has a code and looks at the tree of a text.
-/

namespace BraceLint

/-- A rule: its code, and what it finds in a text with a given tree. -/
structure Rule where
  code : String
  check : Text → Tree → Except Fault (List Finding)

namespace Rule

/-- A rule that reports what it is given, whatever the text. -/
def reporting (code : String) (findings : List Finding) : Rule where
  code := code
  check _ _ := .ok findings

end Rule

end BraceLint
