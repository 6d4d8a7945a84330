import BraceLint.Syntax.Grammar.Expression

/-!
Declarations: variables, and in typed dialects the declarations of types, enumerations and namespaces.
Most words that start a typed declaration are also names, and the token after them decides which they
are.
-/

namespace BraceLint.Grammar

open Parse

/-! ### Variables -/

/-- The words that declare variables. -/
inductive VariableKind where
  | var
  | let_
  | const
deriving DecidableEq, Repr

/-- Whether a loop over the members of a value goes on here. -/
def seesLoopWord : Parse Bool :=
  seesWord .in_ <||> seesWord .of

/-- Reads one variable with its type and its value. A variable declared with `let` or `const` is not
called `let`. A name may go without a value, and so may a pattern that a loop fills or that is defined
elsewhere. -/
def declarator (solve : Solver) (kind : VariableKind) (isHead : Bool) : Parse Tree := do
  let start ← here
  check (!(kind != .var && (← seesWord .let_)))
  let isName := (← token).isWord
  let target ← solve.tree .pattern
  if isName && (← typed) then discard (take .bang)
  let mark ← typeMark? solve
  if ← (pure isHead <&&> seesLoopWord) then node start (target :: mark)
  else if ← take .equal then node start (target :: mark ++ [← solve.tree .assignment])
  else
    check (isName || (← surroundings).ambient || (kind == .const && !isHead))
    node start (target :: mark)

/-- Reads variables after the word that declares them. A semicolon ends them even after a comma. -/
def declarators (solve : Solver) (kind : VariableKind) (isHead : Bool) : Parse (List Tree) :=
  iterate [] fun found => do
    if ← sees .semicolon then return .inr found.reverse
    else
      let next ← declarator solve kind isHead
      if ← take .comma then return .inl (next :: found)
      else return .inr (next :: found).reverse

/-- Skips what stands between the variables of a declaration and the end of the statement. -/
def skipToStatementEnd (solve : Solver) : Parse Unit := do
  discard (recover (solve .expression))
  discard (gather do
    if ← takeStatementEnd then return none
    else
      advance
      check ((← token).kind != .invalid)
      return some ())

/-- Reads a declaration of variables from the word that declares them. -/
def variableStatement (solve : Solver) (start : Nat) (kind : VariableKind) : Parse Tree := do
  advance
  let found ← bracketed (declarators solve kind false)
  if !(← takeStatementEnd) then skipToStatementEnd solve
  node start found

/-- The kind of variables that a word declares here. The word `let` declares only before a binding
target. -/
def variableKind? : Parse (Option VariableKind) := do
  let second ← upcoming
  match (← token).keyword? with
  | some .var => return some .var
  | some .const => return some .const
  | some .let_ =>
    return if second.isName || second.isMark .lbrace || second.isMark .lbracket then some .let_
      else none
  | _ => return none

/-- Whether the word `using` that stands here declares a variable: its name follows on the same
line. -/
def seesUsing : Parse Bool := do
  let second ← upcoming
  return (← seesWord .using) && !second.afterLine && (← isVariable second)

/-- Reads variables that are disposed of at the end of their block, if they are declared here. A
semicolon after them is a statement of its own. -/
def usingStatement? (solve : Solver) : Parse (Option Tree) := do
  let start ← here
  let awaits ← looking do
    expectWord .await
    seesUsing
  if awaits then advance
  if ← seesUsing then
    advance
    return some (← node start (← declarators solve .var false))
  else
    return none

/-! ### Enumerations -/

/-- Reads the name of a member of an enumeration. An expression in brackets counts for nothing. -/
def enumKey (solve : Solver) : Parse Tree := do
  let start ← here
  if ← take .lbracket then
    discard (bracketed (solve .expression))
    expect .rbracket
    node start []
  else
    let token ← token
    check (token.isWord || token.kind == .quoted || token.kind == .number)
    leaf

/-- Reads one member of an enumeration. Two tokens that stand in the place of its value and of the
comma after it are passed over. -/
def enumMember (solve : Solver) : Parse Tree := do
  let start ← here
  let key ← enumKey solve
  if ← take .equal then
    let value ← solve.tree .assignment
    discard (take .comma)
    node start [key, value]
  else
    if !(← take .comma) && !(← sees .rbrace) then
      advance
      advance
    node start [key]

/-- Reads an enumeration after the word that declares it. -/
def enumeration (solve : Solver) (start : Nat) : Parse Tree := do
  let name ← anyName
  expect .lbrace
  let members ← bracketed (gather do
    if ← sees .rbrace then return none else return some (← enumMember solve))
  expect .rbrace
  node start (name :: members)

/-! ### Types and namespaces -/

/-- Reads a declaration of an object type after the word that declares it. What it builds on counts
once. -/
def interface (solve : Solver) (start : Nat) : Parse Tree := do
  let name ← anyName
  let generics ← typeParameters? solve
  let parents ← if ← takeWord .extends_ then heritage solve else pure []
  if ← seesWord .extends_ then
    discard (gather do
      if ← (sees .lbrace <||> (do return (← token).isDone)) then return none
      else
        advance
        return some ())
  let body ← typeMembers solve
  node start (name :: generics ++ parents ++ [body])

/-- Reads a name for a type after the word that declares it. -/
def typeAlias (solve : Solver) (start : Nat) : Parse Tree := do
  let name ← anyName
  let generics ← typeParameters? solve
  expect .equal
  let body ← solve.tree .type
  statementEnd
  node start (name :: generics ++ [body])

/-- Reads a namespace after the word that declares it. Its name may have several parts. -/
def namespaceDeclaration (solve : Solver) (start : Nat) : Parse Tree := do
  let first ← anyName
  let rest ← gather do
    if ← take .dot then return some (← anyName) else return none
  let body ← bracketed (solve.tree .moduleBlock)
  node start (first :: rest ++ [body])

/-- Reads the statements of a module that is described here, which may be left out. -/
def describedModule (solve : Solver) (start : Nat) : Parse Tree := do
  let name ← leaf
  if ← sees .lbrace then node start [name, ← bracketed (solve.tree .moduleBlock)]
  else
    statementEnd
    node start [name]

/-- Reads a declaration with one of the words that start with a name after them, from that word on. -/
def wordDeclaration? (solve : Solver) (start : Nat) (marks : List Tree) (word : Keyword) :
    Parse (Option Tree) := do
  match word with
  | .abstract_ =>
    advance
    return some (← classDefinition solve start marks true)
  | .enum =>
    advance
    return some (← enumeration solve start)
  | .interface =>
    advance
    return some (← interface solve start)
  | .type =>
    advance
    return some (← typeAlias solve start)
  | .namespace_ =>
    advance
    return some (← namespaceDeclaration solve start)
  | .module_ =>
    advance
    if (← token).kind == .quoted then return some (← describedModule solve start)
    else return some (← namespaceDeclaration solve start)
  | _ => return none

/-- Reads a declaration of something that is defined elsewhere, from the word `declare` on, if one
stands here. -/
def ambientDeclaration? (solve : Solver) (start : Nat) (marks : List Tree) : Parse (Option Tree) := do
  let second ← upcoming
  let declares := [Keyword.function, .class_, .const, .var, .let_, .global, .abstract_, .enum, .interface,
    .namespace_, .type].any second.isKeyword || (second.isKeyword .module_ && !second.afterLine)
  if !declares then return none
  else
    advance
    within ({ · with ambient := true }) do
      match second.keyword? with
      | some .function => return some (← function solve start false .declaration marks)
      | some .class_ => return some (← classDefinition solve start marks true)
      | some .global => return some (← describedModule solve start)
      | some .var => return some (← variableStatement solve start .var)
      | some .let_ => return some (← variableStatement solve start .let_)
      | some .const =>
        if (← upcoming).isKeyword .enum then
          advance
          wordDeclaration? solve start marks .enum
        else return some (← variableStatement solve start .const)
      | some word => wordDeclaration? solve start marks word
      | none => return none

/-- The word that starts a declaration which only typed dialects have, seen from what follows it. -/
def declarationWord? : Parse (Option Keyword) := do
  let first ← token
  let second ← upcoming
  let isNamed ← isVariable second
  let isAsserted := isAssertionWord second && !second.afterLine
  match first.keyword? with
  | some .enum => return if second.isWord && !second.afterLine then some .enum else none
  | some .interface => return if second.isWord && !second.afterLine then some .interface else none
  | some .type => return if second.isWord && !second.afterLine then some .type else none
  | some .abstract_ => return if second.isKeyword .class_ && !second.afterLine then some .abstract_ else none
  | some .namespace_ => return if isNamed && !isAsserted then some .namespace_ else none
  | some .module_ =>
    let isQuoted := second.kind == .quoted
    return if !second.afterLine && (isQuoted || (isNamed && !isAsserted)) then some .module_ else none
  | _ => return none

/-- Reads a declaration that only typed dialects have, if one stands here. -/
def typedDeclaration? (solve : Solver) (start : Nat) (marks : List Tree) : Parse (Option Tree) := do
  let first ← token
  let second ← upcoming
  let isPlain := [Keyword.abstract_, .public_, .static].any first.isKeyword
  if !(← typed) then return none
  else if first.isKeyword .const && second.isKeyword .enum then
    advance
    wordDeclaration? solve start marks .enum
  else if first.isKeyword .declare then ambientDeclaration? solve start marks
  else if first.isKeyword .global && second.isMark .lbrace then
    return some (← describedModule solve start)
  else if isPlain && second.isKeyword .interface && (← isVariable first) then
    advance
    wordDeclaration? solve start marks .interface
  else
    match ← declarationWord? with
    | some word => wordDeclaration? solve start marks word
    | none => return none

end BraceLint.Grammar
