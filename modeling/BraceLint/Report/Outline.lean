import BraceLint.Diagnostic
import BraceLint.Text.Quoted

/-!
Values in full, for whoever looks for a mistake: every field by its name, and every text in quotes.
-/

namespace BraceLint.Outline

/-- A record with named fields. -/
def record (name : String) (fields : List (String × String)) : String :=
  name ++ " \x7b " ++ String.intercalate ", " (fields.map fun field => field.1 ++ ": " ++ field.2) ++
    " \x7d"

/-- A value with the name of what it is. -/
def tagged (name value : String) : String :=
  name ++ "(" ++ value ++ ")"

/-- A value that may be missing. -/
def optional (display : α → String) : Option α → String
  | some value => tagged "Some" (display value)
  | none => "None"

/-- Values between brackets. -/
def list (values : List String) : String :=
  "[" ++ String.intercalate ", " values ++ "]"

/-- A text in quotes. -/
def text (value : String) : String :=
  Text.quote value.toList

/-- The host of a URL. -/
def host : Host → String
  | .domain name => tagged "Domain" (text name)
  | .ipv4 address => tagged "Ipv4" (Host.renderShort address)
  | .ipv6 groups => tagged "Ipv6" (Host.renderLong groups)

/-- A URL by its parts. -/
def url (url : Url) : String :=
  record "Url" [
    ("scheme", text url.scheme),
    ("cannot_be_a_base", if url.isOpaque then "true" else "false"),
    ("username", text url.username),
    ("password", optional text url.password),
    ("host", optional host url.host),
    ("port", optional toString url.port),
    ("path", text url.pathText),
    ("query", optional text url.query),
    ("fragment", optional text url.fragment)]

/-- A position. -/
def position (position : Position) : String :=
  record "Position" [
    ("line_index", toString position.line),
    ("column_index", toString position.column),
    ("byte_index", toString position.byte)]

/-- The two ends of a diagnostic. -/
def range (range : Range) : String :=
  record "Range" [("start", position range.start), ("end", position range.stop)]

/-- A span of bytes. -/
def span (span : Span) : String :=
  record "SourceRange" [
    ("start", tagged "SourcePos" (toString span.start)),
    ("end", tagged "SourcePos" (toString span.stop))]

/-- A change. -/
def change (change : Change) : String :=
  record "LintFixChange" [
    ("new_text", Text.quote change.newText), ("range", span change.span)]

/-- A fix. -/
def fix (fix : Fix) : String :=
  record "LintFix" [
    ("description", text fix.description), ("changes", list (fix.changes.map change))]

/-- A diagnostic. The text it is about is left out. -/
def diagnostic (diagnostic : Diagnostic) : String :=
  record "LintDiagnostic" [
    ("specifier", url diagnostic.specifier),
    ("range", range diagnostic.range),
    ("text_info", text "<omitted>"),
    ("message", text diagnostic.message),
    ("code", text diagnostic.code),
    ("hint", optional text diagnostic.hint),
    ("fixes", list (diagnostic.fixes.map fix))]

end BraceLint.Outline
