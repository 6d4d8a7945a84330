import BraceLint.Diagnostic
import BraceLint.Json

/-!
Diagnostics as JSON. The lines of a record count from one and are kept to 32 bits; columns count from
zero. Fixes are not part of the record.
-/

namespace BraceLint

/-- The number of a line in a record. -/
def Position.lineNumber (position : Position) : Nat :=
  (position.line + 1) % 0x100000000

/-- A position as a record. -/
def Position.toJson (position : Position) : Json :=
  .object [("line", .number position.lineNumber), ("col", .number position.column),
    ("bytePos", .number position.byte)]

/-- The two ends of a diagnostic as a record. -/
def Range.toJson (range : Range) : Json :=
  .object [("start", range.start.toJson), ("end", range.stop.toJson)]

/-- A diagnostic as a record. -/
def Diagnostic.toJson (diagnostic : Diagnostic) : Json :=
  .object [("specifier", .string diagnostic.specifier.render), ("range", diagnostic.range.toJson),
    ("message", .string diagnostic.message), ("code", .string diagnostic.code),
    ("hint", (diagnostic.hint.map Json.string).getD .null)]

end BraceLint
