import BraceLint.Text.Direction
import BraceLint.Text.Joining
import BraceLint.Url.Folding
import BraceLint.Url.Punycode

/-!
Host names. A name is a list of labels with dots between them. It is kept in ASCII: a label with other
characters is folded, checked, and written with the mark `xn--`. A label that already has the mark is
read back and checked in the same way.
-/

namespace BraceLint.Domain

open Text

/-- The mark of a label that stands for one beyond ASCII. -/
def mark : Text :=
  "xn--".toList

/-- Whether all characters are ASCII. -/
def isAscii (text : Text) : Bool :=
  text.all (·.toNat < 0x80)

/-- The most characters of a label that is written in ASCII. -/
def labelLimit : Nat := 1000

/-- The most characters after the mark of a label. -/
def markedLimit : Nat := 2000

/-- Whether a label beyond ASCII may stand in a name: no mark comes first, and its joiners make a
difference. -/
def isSound (label : Text) : Bool :=
  !label.head?.any isMark && joinersFit [] label && label.length ≤ labelLimit

/-- The label that one with the mark stands for, given what follows the mark. It has a character beyond
ASCII and is its own folded form. -/
def marked? (text : Text) : Option Text := do
  guard (isAscii text && text.length ≤ markedLimit)
  let label ← Punycode.decode? text
  guard (!isAscii label && Folding.name? label == some label)
  return label

/-- The label that a folded text stands for, if it may stand in a name. -/
def label? (text : Text) : Option Text := do
  let label ← if mark.isPrefixOf text then marked? (text.drop mark.length) else some text
  guard (isAscii label || isSound label)
  return label

/-- Whether the labels of a name keep to one direction each, where directions matter. -/
def isOrdered (labels : List Text) : Bool :=
  !(labels.any fun label => label.any fun c => (Direction.of c).isMixed) ||
    labels.all fun label => label.isEmpty || Direction.isOrdered label

/-- A label in ASCII. -/
def asciiLabel (label : Text) : Text :=
  if isAscii label then label else mark ++ Punycode.encode label

/-- A name in ASCII, if it is one. -/
def ascii? (text : Text) : Option Text := do
  let folded ← Folding.name? text
  let labels ← (splitOn '.' folded).mapM label?
  guard (isOrdered labels)
  return ['.'].intercalate (labels.map asciiLabel)

end BraceLint.Domain
