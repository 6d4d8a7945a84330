import BraceLint.Command.Arguments
import BraceLint.Command.Store
import BraceLint.FixLoop
import BraceLint.Report.Record
import BraceLint.Report.Outline
import BraceLint.Report.Terminal

/-!
What the command does with files. Each path is a task of its own: its file is read, fixed and written
back if that was asked for, and linted. The diagnostics of all tasks are put in order by file and
place before they are shown, so the order of the tasks does not show. A task that fails ends the run.
-/

namespace BraceLint.Command

/-- Why a run fails. -/
inductive Failure where
  | unresolved (path : String) (fault : FileFault)
  | unreadable (path : String) (fault : FileFault)
  | unwritable (path : String) (fault : FileFault)
  | unfixable (specifier : Url) (error : FixError)
  | unlintable (specifier : Url) (error : LintError)

/-- A diagnostic with the text it is about. -/
abbrev Entry := Diagnostic × Text

/-- The file of one path after its task, and what was found in it. -/
structure TaskResult where
  store : Store
  entries : List Entry

/-- Reads the file a path leads to. -/
def loaded (store : Store) (path : String) : Except Failure (Names × Text) := do
  let names ← (store.resolve path).mapError (.unresolved path)
  let text ← (store.read names).mapError (.unreadable path)
  return (names, text)

/-- The text to lint: the text that was read, or what fixing makes of it. -/
def prepared (parser : Parser) (rules : List Rule) (fix : Bool) (specifier : Url) (text : Text) :
    Except Failure Text :=
  if fix then (fixText parser rules specifier text).mapError (.unfixable specifier) else .ok text

/-- Writes the text of a file back, but only if it is not the text that was read. -/
def writeIfChanged (store : Store) (path : String) (names : Names) (text final : Text) :
    Except Failure Store :=
  if final = text then .ok store else (store.write names final).mapError (.unwritable path)

/-- What linting finds in a text of a file. -/
def linted (parser : Parser) (rules : List Rule) (specifier : Url) (text : Text) :
    Except Failure (List Diagnostic) :=
  (lintText parser rules specifier text).mapError (.unlintable specifier)

/-- Diagnostics with the text they are about. -/
def entriesOf (text : Text) (found : List Diagnostic) : List Entry :=
  found.map fun diagnostic => (diagnostic, text)

/-- Lints the file of one path, fixing it first if asked to. A file is written only if its text
changed. -/
def runTask (parser : Parser) (rules : List Rule) (fix : Bool) (store : Store) (path : String) :
    Except (Store × Failure) TaskResult :=
  let failing {α : Type} (store : Store) (result : Except Failure α) : Except (Store × Failure) α :=
    result.mapError fun failure => (store, failure)
  do
    let (names, text) ← failing store (loaded store path)
    let specifier := Url.ofFileNames names
    let final ← failing store (prepared parser rules fix specifier text)
    let store ← failing store (writeIfChanged store path names text final)
    let found ← failing store (linted parser rules specifier final)
    return ⟨store, entriesOf final found⟩

/-- Runs the tasks of paths one after the other, up to the first that fails. -/
def runTasks (parser : Parser) (rules : List Rule) (fix : Bool) (store : Store) :
    List String → Store × Except Failure (List Entry)
  | [] => (store, .ok [])
  | path :: paths =>
    match runTask parser rules fix store path with
    | .error (store, failure) => (store, .error failure)
    | .ok result =>
      match runTasks parser rules fix result.store paths with
      | (store, .ok entries) => (store, .ok (result.entries ++ entries))
      | (store, .error failure) => (store, .error failure)

/-- Whether an entry comes no later than another: by the text of the specifier, then by the start. -/
def Entry.le (left right : Entry) : Bool :=
  let first := left.1.specifier.render
  let second := right.1.specifier.render
  first < second ||
    (first == second && left.1.range.start.byte ≤ right.1.range.start.byte)

/-- Entries in the order in which they are shown. -/
def ordered (entries : List Entry) : List Entry :=
  entries.mergeSort Entry.le

/-- What a run came to. -/
inductive Outcome where
  | help
  | refused
  /-- The tasks were run. -/
  | ran (options : Options) (codes : List String) (result : Except Failure (List Entry))

/-- Runs the command on files. -/
def run (parser : Parser) (store : Store) (arguments : List String) : Store × Outcome :=
  match Request.ofArguments arguments with
  | .help => (store, .help)
  | .refused => (store, .refused)
  | .lint options =>
    let rules := options.selection.rules.map Curly.toRule
    let codes := rules.map Rule.code
    match runTasks parser rules options.fix store options.files with
    | (store, .ok entries) => (store, .ran options codes (.ok (ordered entries)))
    | (store, .error failure) => (store, .ran options codes (.error failure))

namespace Failure

/-- A failure with what caused it. -/
def caused (what : String) (fault : FileFault) : String :=
  what ++ "\n\nCaused by:\n    " ++ fault.message

/-- A failure to lint a file, in words. -/
def lintMessage (specifier : Url) : LintError → String
  | .malformed error => specifier.render ++ ": " ++ error.message
  | .misplaced _ => specifier.render ++ ": a finding lies outside of the text"

/-- The failure in words. -/
def message : Failure → String
  | .unresolved path fault => caused ("Failed to resolve " ++ path) fault
  | .unreadable path fault => caused ("Failed to read " ++ path) fault
  | .unwritable path fault => caused ("Failed to write " ++ path) fault
  | .unfixable specifier (.lint error) => lintMessage specifier error
  | .unfixable specifier (.edit _) => specifier.render ++ ": a fix does not fit the text"
  | .unfixable _ .unsettled => FixError.unsettledMessage
  | .unlintable specifier error => lintMessage specifier error

end Failure

namespace Outcome

/-- The exit code: success only if nothing is left to report. -/
def exitCode : Outcome → Nat
  | .help => 0
  | .refused => 2
  | .ran _ _ (.ok []) => 0
  | .ran _ _ _ => 1

/-- What goes to the standard output. -/
def standardOutput : Outcome → String
  | .help => helpText
  | .refused => ""
  | .ran options _ (.ok entries) =>
    if options.json then
      String.ofList (Json.pretty 0 (.array (entries.map fun entry => entry.1.toJson))) ++ "\n"
    else ""
  | .ran _ _ (.error _) => ""

/-- An entry as a terminal shows it, with an empty line after it. A diagnostic that runs backwards cannot
be shown, and linting finds one only for a statement that runs backwards itself. -/
def shown (entry : Entry) : String :=
  (Terminal.render? entry.1 entry.2).getD "" ++ "\n\n"

/-- The line of the log that names the rules. -/
def rulesLine (codes : List String) : String :=
  "DEBUG running rules: " ++ Outline.list (codes.map Outline.text) ++ "\n"

/-- How many problems are left, if there are any. -/
def summary (count : Nat) : String :=
  if count = 0 then "" else "Found " ++ toString count ++ " problems\n"

/-- What goes to the standard error output. With the log on, only its first line is part of it: the lines
that tell how each file was linted come in whichever order the tasks write them. -/
def standardError (log : Bool) : Outcome → String
  | .help => ""
  | .refused => "error: invalid arguments\n\n" ++ helpText
  | .ran options codes result =>
    let head := if log then rulesLine codes else ""
    match result with
    | .ok entries =>
      let listing := if options.json then "" else String.join (entries.map shown)
      head ++ listing ++ summary entries.length
    | .error failure => head ++ "Error: " ++ failure.message ++ "\n"

end Outcome

end BraceLint.Command
