import BraceLint.MediaType
import BraceLint.Rule.Curly
import BraceLint.Syntax.Program

/-!
Linting a file: its text is parsed once, and every rule looks at the tree in turn. What the rules find
is told rule by rule, in the order in which each rule found it. The parser is a parameter, so that
what is said about linting holds for any parser.
-/

namespace BraceLint

/-- A parser: the tree of the text of a file of some kind. -/
abbrev Parser := Url → MediaType → Text → Except SyntaxError Tree

/-- The parser for programs. -/
def programParser : Parser :=
  fun _ type text => parseProgram type.dialect text

/-- A file that is to be linted. -/
structure SourceFile where
  specifier : Url
  mediaType : MediaType
  /-- The text of the file, which has no byte order mark before it. -/
  text : Text

namespace SourceFile

/-- A file whose kind its URL tells. -/
def ofUrl (specifier : Url) (text : Text) : SourceFile :=
  ⟨specifier, MediaType.ofUrl specifier, text⟩

end SourceFile

/-- Why a file cannot be linted. -/
inductive LintError where
  /-- The text is not a program. -/
  | malformed (error : SyntaxError)
  /-- What a rule says does not fit the text. -/
  | misplaced (fault : Fault)
deriving DecidableEq, Repr

/-- What each rule finds in a text with a given tree, one list for each rule. -/
def lintEach (rules : List Rule) (specifier : Url) (text : Text) (tree : Tree) :
    Except Fault (List (List Diagnostic)) :=
  rules.mapM fun rule => do
    let findings ← rule.check text tree
    findings.mapM (Finding.locate specifier text)

/-- What the rules find in a text with a given tree. -/
def lintTree (rules : List Rule) (specifier : Url) (text : Text) (tree : Tree) :
    Except Fault (List Diagnostic) := do
  return (← lintEach rules specifier text tree).flatten

/-- What the rules find in a file. -/
def lintFile (parser : Parser) (rules : List Rule) (file : SourceFile) :
    Except LintError (List Diagnostic) :=
  match parser file.specifier file.mediaType file.text with
  | .error error => .error (.malformed error)
  | .ok tree =>
    match lintTree rules file.specifier file.text tree with
    | .error fault => .error (.misplaced fault)
    | .ok diagnostics => .ok diagnostics

/-- How many diagnostics there are after each of the findings of each rule. -/
def tallies : (earlier : Nat) → List (List Diagnostic) → List (List Nat)
  | _, [] => []
  | earlier, found :: rest =>
    List.range' (earlier + 1) found.length :: tallies (earlier + found.length) rest

end BraceLint
