import BraceLint.Syntax.Grammar.Declaration

/-!
Statements. The text of a statement runs from its first token to its last, its own semicolon
included; where the semicolon is left out the statement ends with the token before. A block that the
end of the text cuts short is complete without its closing brace.
-/

namespace BraceLint.Grammar

open Parse

/-- Reads statements in braces. -/
def block (solve : Solver) (item : Goal) : Parse Tree := do
  let start ← here
  expect .lbrace
  let children ← gather do
    let token ← token
    if token.isMark .rbrace || token.isDone then return none
    else return some (← solve.tree item)
  discard (take .rbrace)
  return .block (← spanFrom start) children

/-- Whether the directive stands here that makes code strict. -/
def seesStrictDirective : Parse Bool := do
  let lexeme := (← lookahead).lexeme
  return lexeme.token.kind == .quoted && lexeme.after.offset == lexeme.here.offset + 12 &&
    (lexeme.here.rest.drop 1).take 10 == "use strict".toList

/-- Reads statements in braces that are the body of a function. -/
def functionBlock (solve : Solver) : Parse Tree := do
  let isStrict ← looking do
    expect .lbrace
    seesStrictDirective
  within (fun around => { around with strict := around.strict || isStrict }) (block solve (.statement true))

/-- Reads an expression in parentheses. -/
def condition (solve : Solver) : Parse Tree := do
  expect .lparen
  let inner ← bracketed (solve.tree .expression)
  expect .rparen
  return inner

/-- Reads the statement that another one governs. -/
def body (solve : Solver) : Parse Tree :=
  solve.tree (.statement false)

/-- Reads an `if` statement. -/
def ifStatement (solve : Solver) : Parse Tree := do
  let start ← here
  expectWord .if_
  let test ← condition solve
  let consequent ← body solve
  let alternate ← if ← takeWord .else_ then pure (some (← body solve)) else pure none
  return .control (.ifElse (← spanFrom start) test consequent alternate)

/-- Reads a `while` statement. -/
def whileStatement (solve : Solver) : Parse Tree := do
  let start ← here
  expectWord .while_
  let test ← condition solve
  let body ← body solve
  return .control (.whileLoop (← spanFrom start) test body)

/-- Reads a `do` statement. A semicolon after it belongs to it. -/
def doStatement (solve : Solver) : Parse Tree := do
  let start ← here
  expectWord .do_
  let body ← body solve
  expectWord .while_
  let test ← condition solve
  discard (take .semicolon)
  return .control (.doWhile (← spanFrom start) test body)

/-- What a `for` statement starts with: what it declares or computes first, if it does, and what that
looks like. -/
structure ForStart where
  tree : Option Tree
  form : Form

/-- Whether a loop over a value starts right here, so that nothing is declared. -/
def seesEmptyLoop (solve : Solver) : Parse Bool :=
  typed <&&> looking do
    check (← takeWord .of <||> takeWord .in_)
    discard (solve .assignment)
    sees .rparen

/-- Reads the variables that a `for` statement declares. Only with `var` is the word `in` no operator in
their values. -/
def forVariables (solve : Solver) (kind : VariableKind) : Parse ForStart := do
  let start ← here
  advance
  let found ←
    if ← seesEmptyLoop solve then pure []
    else within ({ · with allowIn := kind != .var }) (declarators solve kind true)
  return ⟨some (← node start found), .name⟩

/-- Whether a variable of a `using` declaration stands here: a name before `of` or `in`. -/
def seesUsingVariable : Parse Bool := do
  let next ← upcoming
  return !(← seesWord .of) && (next.isKeyword .of || next.isKeyword .in_)

/-- Reads the expression a `for` statement starts with, or the one variable that a loop declares with
`using`. -/
def forExpression (solve : Solver) : Parse ForStart := do
  let start ← here
  let isUsing ← (seesWord .using <||> looking do
    expectWord .await
    seesWord .using)
  let first ← within ({ · with allowIn := false, inForStart := true }) (solve .expression)
  let isAlone := (first.form == .name || first.form == .signed) && isUsing
  if ← (pure isAlone <&&> seesUsingVariable) then
    let name ← bindingName false
    return ⟨some (← node start [name]), .name⟩
  else
    return ⟨some first.tree, first.form⟩

/-- Reads what a `for` statement starts with. -/
def forStart (solve : Solver) : Parse ForStart := do
  match ← variableKind? with
  | some kind => forVariables solve kind
  | none => if ← sees .semicolon then return ⟨none, .other⟩ else forExpression solve

/-- Reads the test, the update and the body of a counting loop. The semicolon after the test may be left
out. -/
def forTail (solve : Solver) (start : Nat) (first : Option Tree) : Parse Tree := do
  expect .semicolon
  let test ← bracketed do
    if ← take .semicolon then return none
    else
      let test ← solve.tree .expression
      discard (take .semicolon)
      return some test
  let update ← bracketed (if ← sees .rparen then pure none else do return some (← solve.tree .expression))
  expect .rparen
  let body ← body solve
  return .control (.forLoop (← spanFrom start) first test update body)

/-- Reads the source and the body of a loop over values. Only a loop over the elements of a sequence can
wait for them. -/
def forValues (solve : Solver) (start : Nat) (isAwait : Bool) (left : Tree) : Parse Tree := do
  if ← takeWord .of then
    let source ← bracketed (solve.tree .assignment)
    expect .rparen
    let body ← body solve
    return .control (.forOf (← spanFrom start) left source body)
  else
    check !isAwait
    expectWord .in_
    let source ← bracketed (solve.tree .expression)
    expect .rparen
    let body ← body solve
    return .control (.forIn (← spanFrom start) left source body)

/-- Reads a `for` statement of any kind. -/
def forStatement (solve : Solver) : Parse Tree := do
  let start ← here
  expectWord .for_
  let isAwait ← takeWord .await
  expect .lparen
  let first ← bracketed (forStart solve)
  match first.tree, ← seesLoopWord with
  | some left, true =>
    check (first.form != .fixed)
    forValues solve start isAwait left
  | tree, _ =>
    check !isAwait
    forTail solve start tree

/-- Reads a `with` statement. -/
def withStatement (solve : Solver) : Parse Tree := do
  let start ← here
  expectWord .with_
  let target ← condition solve
  let body ← body solve
  node start [target, body]

/-- Reads one case of a `switch` statement, and tells whether it is the one for all other values. -/
def switchCase (solve : Solver) : Parse (Bool × Tree) := do
  let start ← here
  let isDefault ← seesWord .default_
  let test ←
    if ← takeWord .case_ then pure [← solve.tree .expression]
    else do
      expectWord .default_
      pure []
  expect .colon
  let statements ← gather do
    let token ← token
    if token.isKeyword .case_ || token.isKeyword .default_ || token.isMark .rbrace then
      return none
    else
      return some (← solve.tree (.statement true))
  return (isDefault, ← node start (test ++ statements))

/-- Reads a `switch` statement. At most one of its cases is for all other values. -/
def switchStatement (solve : Solver) : Parse Tree := do
  let start ← here
  expectWord .switch
  let subject ← condition solve
  expect .lbrace
  let cases ← gather do
    if ← sees .rbrace then return none else return some (← switchCase solve)
  check ((cases.filter Prod.fst).length ≤ 1)
  expect .rbrace
  node start (subject :: cases.map Prod.snd)

/-- Reads what is done when an exception is caught. -/
def handler (solve : Solver) : Parse Tree := do
  let start ← here
  expectWord .catch_
  let target ←
    if ← take .lparen then do
      let target ← bracketed (solve.tree .pattern)
      let mark ← typeMark? solve
      expect .rparen
      pure (target :: mark)
    else pure []
  let body ← solve.tree .block
  node start (target ++ [body])

/-- Reads a `try` statement. -/
def tryStatement (solve : Solver) : Parse Tree := do
  let start ← here
  expectWord .try_
  let body ← solve.tree .block
  let caught ← if ← seesWord .catch_ then pure [← handler solve] else pure []
  let finished ← if ← takeWord .finally_ then pure [← solve.tree .block] else pure []
  node start (body :: caught ++ finished)

/-- Reads as far as a part comes that belongs to nothing. -/
def passOver (p : Parse α) : Parse Unit := do
  match ← recover p with
  | .ok _ => return ()
  | .error error => if isRecoverable error then return () else failWith error

/-- Reads a handler that belongs to no `try` statement. It stands for its first word alone, and what is
in it is not part of the program. -/
def strayHandler (solve : Solver) : Parse Tree := do
  let word := (← token).span
  if ← seesWord .catch_ then passOver (handler solve)
  if ← seesWord .finally_ then passOver (do advance; solve .block)
  return .node word []

/-- Reads a `return` statement. -/
def returnStatement (solve : Solver) : Parse Tree := do
  let start ← here
  expectWord .return_
  let value ← if ← seesStatementEnd then pure [] else pure [← solve.tree .expression]
  statementEnd
  node start value

/-- Reads a `throw` statement, whose value starts on its own line. -/
def throwStatement (solve : Solver) : Parse Tree := do
  let start ← here
  expectWord .throw
  check !(← token).afterLine
  let value ← solve.tree .expression
  statementEnd
  node start [value]

/-- Reads a jump with the label it may name. -/
def jumpStatement : Parse Tree := do
  let start ← here
  advance
  let label ← if ← seesStatementEnd then pure [] else pure [← labelName]
  statementEnd
  node start label

/-- Reads an expression as a statement, or a statement with a label. An operator after an expression
that is no operand ends the statement with its last operand. -/
def expressionStatement (solve : Solver) (start : Nat) : Parse Tree := do
  let first ← bracketed (solve .expression)
  if first.form == .name && (← sees .colon) then
    advance
    let inner ← body solve
    node start [first.tree, inner]
  else if ← takeStatementEnd then
    node start [first.tree]
  else
    check (← seesSign)
    let whole ← operators solve start 0 ⟨first.tree, .other⟩
    node start [whole.tree]

/-- Reads a statement that declares something, or an expression. -/
def declarationStatement (solve : Solver) (start : Nat) (marks : List Tree) (declarations : Bool) :
    Parse Tree := do
  match ← typedDeclaration? solve start marks with
  | some tree => return tree
  | none =>
    match ← variableKind? with
    | some kind =>
      if declarations || kind == .var then variableStatement solve start kind
      else expressionStatement solve start
    | none =>
      match ← if declarations then usingStatement? solve else pure none with
      | some tree => return tree
      | none => expressionStatement solve start

/-- Reads a statement that starts with a word. -/
def wordStatement (solve : Solver) (start : Nat) (marks : List Tree) (declarations : Bool)
    (keyword : Option Keyword) : Parse Tree := do
  let next ← upcoming
  match keyword with
  | some .if_ => ifStatement solve
  | some .while_ => whileStatement solve
  | some .do_ => doStatement solve
  | some .for_ => forStatement solve
  | some .with_ => withStatement solve
  | some .switch => switchStatement solve
  | some .try_ => tryStatement solve
  | some .return_ => returnStatement solve
  | some .throw => throwStatement solve
  | some .break_ | some .continue_ => jumpStatement
  | some .debugger =>
    advance
    statementEnd
    node start []
  | some .function => function solve start false .declaration marks
  | some .class_ => classDefinition solve start marks true
  | some .import_ =>
    check (next.isMark .lparen || next.isMark .dot)
    let value ← bracketed (solve.tree .expression)
    discard (take .semicolon)
    node start [value]
  | some .catch_ | some .finally_ => strayHandler solve
  | some .async =>
    if next.isKeyword .function && !next.afterLine then
      advance
      function solve start true .declaration marks
    else
      expressionStatement solve start
  | _ => declarationStatement solve start marks declarations

/-- Reads a statement. Its decorators are kept by a class or a function. -/
def statement (solve : Solver) (declarations : Bool) : Parse Tree := do
  let start ← here
  let marks ← decorators solve
  match (← token).kind with
  | .word keyword _ => wordStatement solve start marks declarations keyword
  | .punctuator .lbrace => block solve (.statement true)
  | .punctuator .semicolon =>
    advance
    node start []
  | _ => expressionStatement solve start

end BraceLint.Grammar
