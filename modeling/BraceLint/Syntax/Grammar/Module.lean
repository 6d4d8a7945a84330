import BraceLint.Syntax.Grammar.Statement

/-!
Statements of modules: what a file imports and exports. The first of them shows that the file is a
module.
-/

namespace BraceLint.Grammar

open Parse

/-- Reads a quoted name. -/
def quotedName : Parse Tree := do
  check ((← token).kind == .quoted)
  leaf

/-- Reads a name under which a module exports something: any word, or a quoted name. -/
def exportedName : Parse Tree := do
  if (← token).kind == .quoted then leaf else anyName

/-- Reads the attributes of an import, if they start on the same line. -/
def importAttributes (solve : Solver) : Parse (List Tree) := do
  let token ← token
  if (token.isKeyword .with_ || token.isKeyword .assert) && !token.afterLine then
    advance
    return [(← object solve).tree]
  else
    return []

/-- Reads the quoted name of a module with its attributes, and the end of the statement. -/
def moduleSource (solve : Solver) : Parse (List Tree) := do
  let name ← quotedName
  let attributes ← importAttributes solve
  statementEnd
  return name :: attributes

/-- Reads the module that something comes from, and the end of the statement. -/
def fromModule (solve : Solver) : Parse (List Tree) := do
  expectWord .from_
  moduleSource solve

/-! ### Imports -/

/-- Reads an entry of a list after the words `type as`: the first of them may be the name that is
renamed, or the mark of a type. The new name is read by the given parser. -/
def entryAfterTypeAs (newName : Parse Tree) : Parse Unit := do
  if (← token).isWord then
    let isAs ← seesWord .as
    discard newName
    if isAs && (← token).isWord then discard newName

/-- Reads one entry of an import list: a name, perhaps renamed, and in typed dialects perhaps marked as
a type. What is not renamed has to be the name of a variable. -/
def importEntry : Parse Tree := do
  let start ← here
  let first ← token
  discard exportedName
  let isMarked := (← typed) && first.isKeyword .type && (← token).isWord
  if isMarked && (← seesWord .as) then
    advance
    entryAfterTypeAs (bindingName false)
  else
    let name ← if isMarked then token else pure first
    if isMarked then advance
    if ← takeWord .as then discard (bindingName false) else check (← isVariable name)
  node start []

/-- Reads the value of a name for a module or for a member of a namespace. -/
def importValue (start : Nat) (name : Tree) : Parse Tree := do
  expect .equal
  let value ←
    if (← seesWord .require) && (← upcoming).isMark .lparen then
      advance
      advance
      let name ← quotedName
      expect .rparen
      pure name
    else dottedName
  statementEnd
  node start [name, value]

/-- Reads what an import binds besides its default. -/
def importBindings : Parse (List Tree) := do
  if ← take .star then
    expectWord .as
    return [← bindingName false]
  else
    expect .lbrace
    listUntil .rbrace importEntry

/-- Reads the word before the name that an import binds, if the word marks it as a type or gives it a
phase. Such a word is a name itself where the word `from` follows it, unless that is a name too. -/
def importModifier : Parse Unit := do
  let marks ← ((typed <&&> seesWord .type) <||> seesWord .source)
  let isType ← seesWord .type
  let marked ← looking do
    check marks
    advance
    let second ← upcoming
    let binds ← seesVariable
    let isFrom ← seesWord .from_
    return (binds && (!isFrom || second.isKeyword .from_ || (isType && second.isMark .equal))) ||
      (isType && (← sees .lbrace <||> sees .star))
  if marked then advance

/-- Reads an import. Only all of a module can be deferred. -/
def importDeclaration (solve : Solver) : Parse Tree := do
  let start ← here
  expectWord .import_
  if (← token).kind == .quoted then node start (← moduleSource solve)
  else
    importModifier
    if ← seesVariable then
      let isDeferred ← seesWord .defer
      let name ← bindingName false
      if ← (typed <&&> sees .equal) then importValue start name
      else
        let others ←
          if ← (take .comma <||> (pure isDeferred <&&> sees .star)) then
            if ← seesWord .from_ then pure [] else importBindings
          else pure []
        node start (name :: others ++ (← fromModule solve))
    else
      let bindings ← importBindings
      node start (bindings ++ (← fromModule solve))

/-! ### Exports -/

/-- Reads one entry of an export list. -/
def exportEntry : Parse Tree := do
  let start ← here
  let first ← token
  discard exportedName
  let isMarked := (← typed) && first.isKeyword .type && (← token).isWord
  if isMarked && (← seesWord .as) then
    advance
    entryAfterTypeAs anyName
  else
    if isMarked then advance
    if ← takeWord .as then discard exportedName
  node start []

/-- Reads an export of everything, of all of a module under a name, or of the entries of a list. In
dialects without types a module can pass on the default of another one, under a name that has been
read or that comes first. -/
def exportEntries (solve : Solver) (start : Nat) (hasDefault : Bool) : Parse Tree := do
  let isTyped ← typed
  let named ←
    if !hasDefault && !isTyped && (← token).isWord then
      discard (identifier false false)
      pure true
    else pure hasDefault
  let next ← upcoming
  if !named && (← sees .star) && !next.isKeyword .as then
    advance
    node start (← fromModule solve)
  else
    let renamed ← if named then (sees .comma <&&> pure (next.isMark .star)) else sees .star
    if renamed then
      discard (take .comma)
      expect .star
      expectWord .as
      discard exportedName
    if (named || renamed) && (← seesWord .from_) then node start (← fromModule solve)
    else
      if named || renamed then
        check !isTyped
        expect .comma
      expect .lbrace
      let entries ← listUntil .rbrace exportEntry
      if ← seesWord .from_ then node start (entries ++ (← fromModule solve))
      else
        discard takeStatementEnd
        node start entries

/-- Reads decorators after the word `export`. They stand on one side of it only. -/
def exportDecorators (solve : Solver) (marks : List Tree) : Parse (List Tree) := do
  let more ← decorators solve
  check (marks.isEmpty || more.isEmpty)
  return marks ++ more

/-- Whether a default is passed on from another module. -/
def seesDefaultFrom : Parse Bool := do
  let second ← upcoming
  return !(← typed) && (((← seesWord .from_) && second.kind == .quoted) ||
    ((← sees .comma) && (second.isMark .lbrace || second.isMark .star)))

/-- Reads what a module exports by default. -/
def exportDefault (solve : Solver) (start : Nat) (marks : List Tree) : Parse Tree := do
  let marks ← exportDecorators solve marks
  let inner ← here
  let first ← token
  let second ← upcoming
  let isAbstract := (← typed) && first.isKeyword .abstract_
  if isAbstract && second.isKeyword .class_ && !second.afterLine then
    advance
    node start [← classDefinition solve inner marks false]
  else if ← typed <&&> (seesWord .interface <||> (pure (isAbstract && second.isKeyword .interface))) then
    if isAbstract then advance
    advance
    node start [← interface solve inner]
  else if first.isKeyword .class_ then
    node start [← classDefinition solve inner marks false]
  else if first.isKeyword .function then
    node start [← function solve inner false .default marks]
  else if first.isKeyword .async && second.isKeyword .function && !second.afterLine then
    advance
    node start [← function solve inner true .default marks]
  else if ← seesDefaultFrom then exportEntries solve start true
  else
    let value ← bracketed (solve.tree .assignment)
    statementEnd
    node start [value]

/-- Reads an export of a class, of a function or of variables, if one stands here. -/
def exportedDeclaration? (solve : Solver) (start : Nat) (marks : List Tree) : Parse (Option Tree) := do
  let inner ← here
  let first ← token
  let second ← upcoming
  if first.isKeyword .class_ then return some (← classDefinition solve start marks true)
  else if first.isKeyword .function then return some (← function solve inner false .declaration marks)
  else if first.isKeyword .async && second.isKeyword .function && !second.afterLine then
    advance
    return some (← function solve inner true .declaration marks)
  else if ← typed <&&> pure (first.isKeyword .const && second.isKeyword .enum) then
    advance
    wordDeclaration? solve inner [] .enum
  else
    match ← variableKind? with
    | some kind => return some (← variableStatement solve inner kind)
    | none => return none

/-- Reads an export that only typed dialects have, if one stands here. -/
def typedExport? (solve : Solver) (start : Nat) (marks : List Tree) : Parse (Option Tree) := do
  let inner ← here
  let word := (← token).keyword?
  let declared ← attempt do
    match ← word.elim (pure none) (wordDeclaration? solve inner marks) with
    | some tree => pure tree
    | none => unexpected
  match declared with
  | some tree => return some tree
  | none =>
    if ← takeWord .import_ then
      if (← seesWord .type) && (← upcoming).isWord then advance
      let name ← anyName
      return some (← importValue start name)
    else if ← take .equal then
      let value ← bracketed (solve.tree .expression)
      statementEnd
      return some (← node start [value])
    else if ← takeWord .as then
      expectWord .namespace_
      let name ← identifier false false
      statementEnd
      return some (← node start [name])
    else return none

/-- Reads an export that is declared elsewhere, if one stands here, and skips the word that says so. -/
def ambientExport? (solve : Solver) (start : Nat) (marks : List Tree) : Parse (Option Tree) := do
  if ← seesWord .declare then
    match ← ambientDeclaration? solve start marks with
    | some tree => return some tree
    | none =>
      advance
      return none
  else return none

/-- Reads an export that all dialects have. -/
def plainExport (solve : Solver) (start : Nat) (marks : List Tree) : Parse Tree := do
  if ← typed <&&> takeWord .type then exportEntries solve start false
  else if ← takeWord .default_ then exportDefault solve start marks
  else
    let marks ← exportDecorators solve marks
    match ← exportedDeclaration? solve start marks with
    | some tree => node start [tree]
    | none => exportEntries solve start false

/-- Reads an export. -/
def exportDeclaration (solve : Solver) (start : Nat) (marks : List Tree) : Parse Tree := do
  expectWord .export_
  if ← typed then
    match ← ambientExport? solve start marks with
    | some tree => node start [tree]
    | none =>
      match ← typedExport? solve start marks with
      | some tree => node start [tree]
      | none => plainExport solve start marks
  else
    plainExport solve start marks

/-- Whether an export stands here, perhaps after decorators, which only typed dialects allow before
it. -/
def seesExport (solve : Solver) : Parse Bool := do
  if ← sees .at then
    looking do
      discard (decorators solve)
      seesWord .export_
  else
    seesWord .export_

/-- Reads a statement of a module. -/
def moduleItem (solve : Solver) : Parse Tree := do
  let start ← here
  let second ← upcoming
  let modules := (← surroundings).dialect.modules
  if (← seesWord .import_) && !(second.isMark .lparen || second.isMark .dot) then
    check modules
    enterModule
    importDeclaration solve
  else if ← seesExport solve then
    check (modules && ((← typed) || !(← sees .at)))
    enterModule
    let marks ← decorators solve
    exportDeclaration solve start marks
  else
    solve.tree (.statement true)

end BraceLint.Grammar
