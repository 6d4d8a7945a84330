import BraceLint.Syntax.Grammar.Function

/-!
Object literals and classes. The members of both start with words that may be modifiers or names, and
the token after such a word decides.
-/

namespace BraceLint.Grammar

open Parse

/-! ### Object literals -/

/-- A property of an object literal, and whether a value can be taken apart by it. -/
structure Property where
  tree : Tree
  isFixed : Bool := false

/-- Whether a method starts after the name of a property. -/
def seesMethod : Parse Bool := do
  sees .lparen <||> (typed <&&> sees .less)

/-- Reads a method of an object literal from its type parameters on. -/
def objectMethod (solve : Solver) (start : Nat) (key : Tree) (isAsync isGenerator : Bool) :
    Parse Property := do
  let tail ← functionTail solve isAsync isGenerator
  return ⟨← node start (key :: tail.parts []), true⟩

/-- Reads a property of an object literal that is read by a function. -/
def objectGetter (solve : Solver) (start : Nat) : Parse Property := do
  let key ← propertyKey solve
  let tail ← functionTail solve false false
  return ⟨← node start (key :: tail.result ++ tail.body), true⟩

/-- Reads a property of an object literal that is written by a function. Of its parameters at most two
count, without their decorators. -/
def objectSetter (solve : Solver) (start : Nat) : Parse Property := do
  let key ← propertyKey solve
  let tail ← functionTailOf solve false false (do return (← parameter solve).target)
  return ⟨← node start (key :: tail.parameters.take 2 ++ tail.body), true⟩

/-- Reads what follows a name that stands alone: nothing, or a value to fall back to. -/
def shorthand (solve : Solver) (start : Nat) (key : Tree) : Parse Property := do
  let fallback ← if ← take .equal then pure [← solve.tree .assignment] else pure []
  return ⟨← node start (key :: fallback), false⟩

/-- Reads one property of an object literal. -/
def property (solve : Solver) : Parse Property := do
  let start ← here
  if ← take .ellipsis then
    let inner ← solve .assignment
    return ⟨← node start [inner.tree], inner.form == .fixed⟩
  else if ← take .star then
    let key ← propertyKey solve
    objectMethod solve start key false true
  else
    takeAccessWord
    let first ← token
    let key ← propertyKey solve
    if ← take .colon then
      let value ← solve .assignment
      return ⟨← node start [key, value.tree], value.form == .fixed⟩
    else if ← seesMethod then objectMethod solve start key false false
    else if !first.isWord then
      check ((← typed) && (← sees .rbrace))
      return ⟨← node start [key], false⟩
    else
      discard (take .question)
      if ← (sees .equal <||> sees .comma <||> sees .rbrace) then shorthand solve start key
      else if first.isKeyword .get then objectGetter solve start
      else if first.isKeyword .set then objectSetter solve start
      else
        check (first.isKeyword .async)
        let isGenerator ← take .star
        let key ← propertyKey solve
        objectMethod solve start key true isGenerator

/-- Reads an object literal. -/
def object (solve : Solver) : Parse Parsed := do
  let start ← here
  expect .lbrace
  let properties ← bracketed (listUntil .rbrace (property solve))
  let form := if properties.any Property.isFixed then Form.fixed else .literal
  return ⟨← node start (properties.map Property.tree), form⟩

/-! ### Members of classes -/

/-- Whether the name of a member is that of the constructor. -/
def isConstructorKey (token : Token) (source : Text) : Bool :=
  match token.kind with
  | .word _ name => name == "constructor".toList
  | .quoted => (source.drop 1).take 11 == "constructor".toList && token.span.stop == token.span.start + 13
  | _ => false

/-- Whether a property ends or goes on with its type or its value here, so that the word before it was
its name. A new line may count as the end. -/
def seesProperty (lineEnds : Bool) : Parse Bool := do
  let token ← token
  return ((← typed) && (token.isMark .bang || token.isMark .colon)) || token.isMark .equal ||
    token.isMark .rbrace || token.isMark .semicolon ||
    (lineEnds && (token.isDone || token.afterLine))

/-- Reads a method from its type parameters on. Its decorators come after its parameters. -/
def method (solve : Solver) (start : Nat) (key : Tree) (marks : List Tree)
    (isAsync isGenerator : Bool) : Parse Tree := do
  let tail ← functionTail solve isAsync isGenerator
  node start (key :: tail.parts marks)

/-- Reads a constructor from its type parameters on. Its decorators and its types are no part of it. -/
def constructor (solve : Solver) (start : Nat) (key : Tree) : Parse Tree := do
  let tail ← functionTailOf solve false false (constructorParameter solve)
  node start (key :: tail.parameters ++ tail.body)

/-- Reads a property of a class after its name and its question mark. Its decorators come last, and
nothing has to divide it from the next member. -/
def field (solve : Solver) (start : Nat) (key : Tree) (marks : List Tree) (isOptional : Bool) :
    Parse Tree := do
  if (← typed) && !isOptional then discard (take .bang)
  let mark ← typeMark? solve
  let value ← if ← take .equal then pure [← bracketed (solve.tree .assignment)] else pure []
  discard takeStatementEnd
  node start (key :: value ++ mark ++ marks)

/-- Reads the question mark after the name of a member, and tells whether there was one. -/
def takeOptional : Parse Bool :=
  typed <&&> take .question

/-- Reads a member that is named by the word that was just read, if what follows shows that it is no
modifier. -/
def memberNamedBy? (solve : Solver) (start : Nat) (marks : List Tree) (word : Tree)
    (lineEnds : Bool) : Parse (Option Tree) := do
  if ← seesMethod then return some (← method solve start word marks false false)
  else if ← (seesProperty lineEnds <||> (typed <&&> sees .question)) then
    let isOptional ← takeOptional
    if isOptional && (← seesMethod) then return some (← method solve start word marks false false)
    else return some (← field solve start word marks isOptional)
  else return none

/-- Reads the statements of a static block. -/
def staticBlock (solve : Solver) (start : Nat) : Parse Tree := do
  let body ← bracketed (inBody false false
    (within ({ · with inStaticBlock := true }) (solve.tree .block)))
  node start [body]

/-- Reads a method or a property after its modifiers. -/
def plainMember (solve : Solver) (start : Nat) (marks : List Tree) (isReadonly : Bool) :
    Parse Tree := do
  let first ← token
  let source := (← lookahead).lexeme.here.rest
  let isBare := isReadonly && (first.isMark .bang || first.isMark .colon)
  let key ← if isBare then absent else classKey solve
  let isOptional ← takeOptional
  let isAsync := first.isKeyword .async && !(← token).afterLine
  if ← seesMethod then
    if isConstructorKey first source then constructor solve start key
    else method solve start key marks false false
  else
    let startsGenerator := (← sees .star) && (← token).afterLine
    let isAccessor := (first.isKeyword .get || first.isKeyword .set) &&
      !(← seesProperty false) && !startsGenerator
    if !isAccessor && (← seesProperty true) then
      check !(isConstructorKey first source)
      field solve start key marks isOptional
    else if isAsync then
      discard (takeModifier [.override])
      let isGenerator ← take .star
      let key ← classKey solve
      discard takeOptional
      method solve start key marks true isGenerator
    else
      check isAccessor
      let key ← classKey solve
      method solve start key marks false false

/-- The words before a member that can stand in any order. -/
def lateModifiers : List Keyword :=
  [.abstract_, .readonly, .override, .static]

/-- Reads modifiers in any order, and gives them. A word before the brace of a static block is none. -/
def takeLateModifiers : Parse (List Keyword) :=
  gather do
    let word ← token
    let isBlock := word.isKeyword .static && (← upcoming).isMark .lbrace
    if !isBlock && (← seesModifier lateModifiers) then
      advance
      return word.keyword?
    else return none

/-- Reads a member after the word `static`, if it has it, and after those before it. -/
def memberTail (solve : Solver) (start : Nat) (marks : List Tree) (hasAccess isStatic : Bool) :
    Parse Tree := do
  let modifiers ← takeLateModifiers
  let accessor ←
    if ← seesWord .accessor then
      let word ← leaf
      memberNamedBy? solve start marks word true
    else pure none
  match accessor with
  | some tree => return tree
  | none =>
    let isStatic := isStatic || modifiers.contains .static
    if isStatic && (← sees .lbrace) then staticBlock solve start
    else if (← seesWord .static) && (← upcoming).isMark .lbrace then
      advance
      staticBlock solve start
    else
      let mayIndex := !hasAccess && !modifiers.contains .abstract_ && !modifiers.contains .override
      if (← typed) && mayIndex && (← seesIndexSignature) then indexSignature solve
      else if ← take .star then
        let key ← classKey solve
        method solve start key marks false true
      else
        plainMember solve start marks (modifiers.contains .readonly)

/-- Reads a member after the words `declare` and those for access. -/
def staticMember (solve : Solver) (start : Nat) (marks : List Tree) (hasAccess : Bool) :
    Parse Tree := do
  if ← seesWord .static then
    let word ← leaf
    if ← sees .lbrace then memberTail solve start marks hasAccess true
    else
      match ← memberNamedBy? solve start marks word false with
      | some tree => return tree
      | none => memberTail solve start marks hasAccess true
  else
    memberTail solve start marks hasAccess false

/-- Reads one member of a class. -/
def member (solve : Solver) : Parse Tree := do
  let start ← here
  let marks ← decorators solve
  let early ← if ← (typed <&&> seesWord .declare) then pure [← leaf] else pure []
  let hasAccess ← takeModifier [.public_, .protected_, .private_]
  let late ←
    if ← (pure early.isEmpty <&&> typed <&&> seesWord .declare) then pure [← leaf] else pure []
  match early ++ late with
  | word :: _ =>
    match ← memberNamedBy? solve start marks word true with
    | some tree => return tree
    | none => staticMember solve start marks hasAccess
  | [] => staticMember solve start marks hasAccess

/-- Reads the members of a class in braces. -/
def classBody (solve : Solver) : Parse (List Tree) := do
  expect .lbrace
  let members ← gather do
    discard (gather do if ← take .semicolon then return some () else return none)
    if ← sees .rbrace then return none else return some (← member solve)
  expect .rbrace
  return members

/-! ### Classes -/

/-- Reads the names of what a class or a type builds on. The list may be empty, and a comma may follow
the last name. -/
def heritage (solve : Solver) : Parse (List Tree) :=
  iterate [] fun found => do
    let ends := sees .lbrace <||> seesWord .implements <||> seesWord .extends_
    if ← ends then return .inr found.reverse
    else
      let next ← solve.tree .heritage
      if ← take .comma then return .inl (next :: found)
      else
        check (← ends)
        return .inr (next :: found).reverse

/-- The class that a class extends, with its type arguments. -/
structure Superclass where
  parent : List Tree := []
  generics : List Tree := []

/-- Reads the class that a class extends. -/
def superclass (solve : Solver) : Parse Superclass := do
  let parent ← solve.tree .leftHand
  let generics ← if ← (typed <&&> (sees .less <||> sees .lessLess)) then typeArguments solve else pure []
  return ⟨[parent], generics⟩

/-- Reads the types a class promises to provide, if it lists any. -/
def promises (solve : Solver) : Parse (List Tree) := do
  if ← (typed <&&> takeWord .implements) then heritage solve else return []

/-- What a class builds on. -/
structure Ancestry where
  superclass : Superclass
  promised : List Tree

/-- Reads what a class builds on. It counts once, however often it is given. -/
def ancestry (solve : Solver) : Parse Ancestry := do
  let parent ← if ← takeWord .extends_ then pure (some (← superclass solve)) else pure none
  if parent.isSome then
    if ← (typed <&&> take .comma) then discard (heritage solve)
  if ← takeWord .extends_ then discard (superclass solve)
  let promised ← promises solve
  discard (promises solve)
  let late ← if ← (typed <&&> takeWord .extends_) then pure (some (← superclass solve)) else pure none
  return ⟨(parent <|> late).getD {}, promised⟩

/-- Reads a class after its decorators. In field order its decorators and members come before what it
extends. All of a class is strict. -/
def classDefinition (solve : Solver) (start : Nat) (marks : List Tree) (named : Bool) : Parse Tree :=
  within ({ · with strict := true }) do
    expectWord .class_
    let isNamed ← (pure named <||> seesVariable <||> (typed <&&> seesWord .this))
    let name ← if isNamed then pure [← bindingName true] else pure []
    let generics ← typeParameters? solve
    let ancestry ← ancestry solve
    let members ← bracketed (classBody solve)
    node start (name ++ marks ++ members ++ ancestry.superclass.parent ++ generics ++
      ancestry.superclass.generics ++ ancestry.promised)

end BraceLint.Grammar
