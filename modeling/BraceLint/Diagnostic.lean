import BraceLint.Edit
import BraceLint.Text.Position
import BraceLint.Url.Basic

/-!
What a rule finds, and what is told about it. A finding speaks of bytes of one text; a diagnostic adds
where the text comes from and gives lines and columns.
-/

namespace BraceLint

/-- Why a text does not fit what is said about it. -/
inductive Fault where
  /-- An offset lies beyond the end of the text. -/
  | outside (offset : Nat)
  /-- A span is not a run of whole characters of the text. -/
  | notInText (span : Span)
deriving DecidableEq, Repr

/-- What a rule finds in a text. -/
structure Finding where
  span : Span
  code : String
  message : String
  hint : Option String
  fixes : List Fix
deriving DecidableEq, Repr

/-- A finding with the file it is in and the lines and columns of its ends. -/
structure Diagnostic where
  specifier : Url
  range : Range
  message : String
  code : String
  hint : Option String
  fixes : List Fix
deriving DecidableEq, Repr

namespace Text

/-- The position of an offset that has to be in the text. -/
def position (text : Text) (offset : Nat) : Except Fault Position :=
  match text.position? offset with
  | some position => .ok position
  | none => .error (.outside offset)

end Text

namespace Finding

/-- The diagnostic for a finding in a text. -/
def locate (specifier : Url) (text : Text) (finding : Finding) : Except Fault Diagnostic := do
  let start ← text.position finding.span.start
  let stop ← text.position finding.span.stop
  return {
    specifier := specifier
    range := ⟨start, stop⟩
    message := finding.message
    code := finding.code
    hint := finding.hint
    fixes := finding.fixes }

end Finding

/-- Applies the first fix of every diagnostic to the text they are about. -/
def applyFirstFixes (text : Text) (diagnostics : List Diagnostic) : Except Edit.Failure Text :=
  Edit.applyFixes text (diagnostics.map Diagnostic.fixes)

end BraceLint
