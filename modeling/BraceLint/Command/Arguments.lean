import BraceLint.Rule.Selection

/-!
Arguments of the command. They are read from left to right: an option that does not exist, a value for
an option that takes none, and a request for help are noticed on the way, whichever comes first. Only
when all arguments are read is it checked that no option is repeated or lacks its value and that there
is a file.
-/

namespace BraceLint.Command

/-- What the command is asked to do with files. -/
structure Options where
  files : List String
  json : Bool
  fix : Bool
  selection : Selection
deriving DecidableEq, Repr

/-- What the arguments ask for. -/
inductive Request where
  | help
  /-- The arguments make no sense. -/
  | refused
  | lint (options : Options)
deriving DecidableEq, Repr

/-- The options that take a value. -/
inductive ValueOption where
  | includeRules
  | excludeRules
deriving DecidableEq, Repr

/-- What is known after some arguments. Lists are latest first. -/
structure Seen where
  files : List String := []
  json : Nat := 0
  fix : Nat := 0
  values : List (ValueOption × String) := []
  /-- The option that waits for its value. -/
  pending : Option ValueOption := none
  /-- Whether some option never got its value. -/
  lacksValue : Bool := false

/-- What kind of argument a text is. -/
inductive ArgumentKind where
  | long (name : String) (value : Option String)
  | short (letters : List Char)
  | plain
  /-- The mark after which every argument is a file. -/
  | divider

/-- Splits the name of a long option from the value attached to it. -/
def attached (text : List Char) : ArgumentKind :=
  let name := String.ofList (text.takeWhile (· != '='))
  match text.dropWhile (· != '=') with
  | _ :: value => .long name (some (String.ofList value))
  | [] => .long name none

/-- What kind of argument a text is. A single hyphen is a file. -/
def kindOf (argument : String) : ArgumentKind :=
  match argument.toList with
  | ['-', '-'] => .divider
  | '-' :: '-' :: rest => attached rest
  | ['-'] => .plain
  | '-' :: letters => .short letters
  | _ => .plain

/-- Why reading arguments stops early. -/
inductive Stop where
  | help
  | refused

namespace Seen

/-- An option in wait that is not followed by its value. -/
def abandon (seen : Seen) : Seen :=
  { seen with pending := none, lacksValue := seen.lacksValue || seen.pending.isSome }

/-- Takes an argument that is no option: the value of the option in wait, or a file. -/
def takePlain (seen : Seen) (argument : String) : Seen :=
  match seen.pending with
  | some option =>
    { seen with pending := none, values := (option, argument) :: seen.values }
  | none => { seen with files := argument :: seen.files }

/-- Takes a long option. -/
def takeLong (seen : Seen) (name : String) (value : Option String) : Except Stop Seen :=
  let seen := seen.abandon
  let valued (option : ValueOption) : Seen :=
    match value with
    | some value => { seen with values := (option, value) :: seen.values }
    | none => { seen with pending := some option }
  match name, value with
  | "json", none => .ok { seen with json := seen.json + 1 }
  | "fix", none => .ok { seen with fix := seen.fix + 1 }
  | "help", none => .error .help
  | "rules-include", _ => .ok (valued .includeRules)
  | "rules-exclude", _ => .ok (valued .excludeRules)
  | _, _ => .error .refused

/-- The values given to an option. -/
def valuesOf (seen : Seen) (option : ValueOption) : List String :=
  (seen.values.filter fun entry => entry.1 == option).map Prod.snd

/-- The codes in the value of an option, if it was given. -/
def codes? (seen : Seen) (option : ValueOption) : Option (List String) :=
  (seen.valuesOf option).head?.map fun value => value.splitOn ","

/-- What the arguments ask for when all of them are read. -/
def request (seen : Seen) : Request :=
  let seen := seen.abandon
  let repeated := 1 < seen.json || 1 < seen.fix ||
    1 < (seen.valuesOf .includeRules).length || 1 < (seen.valuesOf .excludeRules).length
  if seen.lacksValue || repeated || seen.files.isEmpty then .refused
  else
    .lint {
      files := seen.files.reverse
      json := seen.json == 1
      fix := seen.fix == 1
      selection := ⟨seen.codes? .excludeRules, seen.codes? .includeRules⟩ }

end Seen

/-- Reads arguments one after the other. -/
def readFrom (seen : Seen) : List String → Except Stop Seen
  | [] => .ok seen
  | argument :: rest =>
    match kindOf argument with
    | .divider =>
      .ok { seen.abandon with files := rest.reverse ++ seen.files }
    | .long name value => do readFrom (← seen.takeLong name value) rest
    | .short letters => if letters.head? = some 'h' then .error .help else .error .refused
    | .plain => readFrom (seen.takePlain argument) rest

/-- What the arguments ask for. -/
def Request.ofArguments (arguments : List String) : Request :=
  match readFrom {} arguments with
  | .ok seen => seen.request
  | .error .help => .help
  | .error .refused => .refused

/-- How the command is used. -/
def helpText : String :=
  String.intercalate "\n" [
    "dlint ",
    "Requires curly braces around the body of control flow statements",
    "",
    "USAGE:",
    "    dlint [OPTIONS] <FILES>...",
    "",
    "ARGS:",
    "    <FILES>...    Sets the input files to use",
    "",
    "OPTIONS:",
    "        --fix                              Apply the suggested fixes and write the files back",
    "    -h, --help                             Print help information",
    "        --json                             Print diagnostics as JSON",
    "        --rules-exclude <RULES_EXCLUDE>    Skip rules with these codes (comma separated)",
    "        --rules-include <RULES_INCLUDE>    Only run rules with these codes (comma separated)",
    ""]

end BraceLint.Command
