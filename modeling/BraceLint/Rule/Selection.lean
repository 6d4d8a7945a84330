import BraceLint.Rule.Curly

/-!
Which rules run. A selection starts from all rules, keeps those that are included if anything is, and
drops those that are excluded; what is both included and excluded is dropped.
-/

namespace BraceLint

/-- A choice of rules by their codes. -/
structure Selection where
  excluded : Option (List String)
  included : Option (List String)
deriving DecidableEq, Repr

namespace Selection

/-- All rules there are. -/
def allRules : List Curly :=
  [Curly.fixable]

/-- Whether a code is chosen. -/
def admits (selection : Selection) (code : String) : Bool :=
  (selection.included.map (·.contains code)).getD true &&
    !(selection.excluded.map (·.contains code)).getD false

/-- The rules that are chosen. They all have the same code, so they are in the order of their
codes. -/
def rules (selection : Selection) : List Curly :=
  allRules.filter fun _ => selection.admits Curly.code

end Selection

end BraceLint
