import BraceLint.Text.Basic

/-!
Changes to a text and how they are applied together. Of the changes that are proposed, those that
start before the end of one already kept are dropped. The changes that are left replace their spans,
and what lies between them is copied. Offsets are bytes, so copying fails where it would cut a
character, and a change that runs backwards cannot be applied.
-/

namespace BraceLint

/-- A replacement of the bytes of a span by a new text. -/
structure Change where
  span : Span
  newText : Text
deriving DecidableEq, Repr

/-- Changes that repair one thing, with words that say what they do. -/
structure Fix where
  description : String
  changes : List Change
deriving DecidableEq, Repr

namespace Edit

/-- Why changes cannot be applied to a text. -/
inductive Failure where
  /-- The span of a change ends before it starts. -/
  | backwards (span : Span)
  /-- A change starts before the end of the one before it. -/
  | overlapping (span : Span)
  /-- A piece that is to be copied starts or ends inside a character. -/
  | cutsCharacter (span : Span)
deriving DecidableEq, Repr

/-- Keeps the changes that start no earlier than the end of the last one kept. -/
def keepFrom (last : Nat) : List Change → List Change
  | [] => []
  | change :: changes =>
    if change.span.start < last then keepFrom last changes
    else change :: keepFrom change.span.stop changes

/-- Changes by where they start; those that start together stay in order. -/
def sortByStart (changes : List Change) : List Change :=
  changes.mergeSort fun left right => left.span.start ≤ right.span.start

/-- Changes by where they start and then by where they stop. -/
def sortBySpan (changes : List Change) : List Change :=
  changes.mergeSort fun left right =>
    left.span.start < right.span.start ||
      (left.span.start == right.span.start && left.span.stop ≤ right.span.stop)

/-- The changes that are applied, of those that are proposed. -/
def keep (changes : List Change) : List Change :=
  keepFrom 0 (sortByStart changes)

/-- Copies the bytes of a span. An empty span, or one that runs backwards, has none. -/
def copy (text : Text) (span : Span) : Except Failure Text :=
  if span.start < span.stop then
    match text.slice? span with
    | some piece => .ok piece
    | none => .error (.cutsCharacter span)
  else
    .ok []

/-- Applies changes in the given order to the text from an offset on. Spans may lie beyond the end of
the text; there is nothing to copy there. -/
def spliceFrom (text : Text) (last : Nat) : List Change → Except Failure Text
  | [] => copy text ⟨last, text.size⟩
  | change :: changes =>
    if change.span.stop < change.span.start then .error (.backwards change.span)
    else if change.span.start < last then .error (.overlapping change.span)
    else do
      let before ← copy text ⟨last, min text.size change.span.start⟩
      let after ← spliceFrom text change.span.stop changes
      return before ++ change.newText ++ after

/-- Applies changes to a text in the order of their spans. -/
def splice (text : Text) (changes : List Change) : Except Failure Text :=
  spliceFrom text 0 (sortBySpan changes)

/-- The changes that alternatives of fixes propose: of each list, all changes of its first fix. -/
def proposed (alternatives : List (List Fix)) : List Change :=
  alternatives.flatMap fun fixes => (fixes.head?.map Fix.changes).getD []

/-- Applies the first fix of each list of alternatives to a text. -/
def applyFixes (text : Text) (alternatives : List (List Fix)) : Except Failure Text :=
  splice text (keep (proposed alternatives))

end Edit

end BraceLint
