import BraceLint.Syntax.Grammar.Parameter

/-!
Types and type declarations' bodies. A type matters to the linter only through the expressions it can
hold, the computed names of members; apart from them its tree records that the type was read.
-/

namespace BraceLint.Grammar

open Parse

/-- Reads a less-than sign that opens a list of types. A double sign is read as two. -/
def openAngle : Parse Unit := do
  let ahead ← lookahead
  if ahead.lexeme.token.isMark .lessLess then
    resume (ahead.lexeme.here.skipAscii 1)
  else
    expect .less

/-- Reads types in angle brackets, of which there may be none. -/
def typeArguments (solve : Solver) : Parse (List Tree) := do
  openAngle
  bracketed (listUntil .greater (solve.tree .type))

/-- Whether type arguments start on this line. -/
def seesTypeArguments : Parse Bool := do
  let token ← token
  return (token.isMark .less || token.isMark .lessLess) && !token.afterLine

/-- Reads type arguments if they start on this line. -/
def typeArguments? (solve : Solver) : Parse (List Tree) := do
  if ← seesTypeArguments then typeArguments solve else return []

/-- Reads one type parameter with its bound and its default. -/
def typeParameter (solve : Solver) : Parse Tree := do
  let start ← here
  discard (gather do
    if ← takeModifier [.public_, .private_, .protected_, .readonly, .abstract_, .const, .override,
        .in_, .out] then return some ()
    else return none)
  let name ← anyName
  let bound ← if ← takeWord .extends_ then pure [← solve.tree .type] else pure []
  let fallback ← if ← take .equal then pure [← solve.tree .type] else pure []
  node start (name :: bound ++ fallback)

/-- Reads type parameters in angle brackets. -/
def typeParameters (solve : Solver) : Parse (List Tree) := do
  expect .less
  bracketed (listUntil .greater (typeParameter solve))

/-- Reads type parameters if they stand here in a typed dialect. -/
def typeParameters? (solve : Solver) : Parse (List Tree) := do
  if (← typed) && (← sees .less) then typeParameters solve else return []

/-- Reads a return type, which may also say what a call shows about an argument. -/
def returnType (solve : Solver) : Parse Tree := do
  let start ← here
  let second ← upcoming
  let asserts ← (seesWord .asserts) <&&> isVariable second
  if asserts then advance
  let next ← upcoming
  let shows := (← seesVariable) && next.isKeyword .is && !next.afterLine
  if asserts || shows then
    let subject ← anyName
    if shows then
      advance
      node start [subject, ← solve.tree .type]
    else
      node start [subject]
  else
    solve.tree .type

/-- Reads a colon and a return type, if a typed dialect has them here. -/
def returnMark? (solve : Solver) : Parse (List Tree) := do
  if ← (typed <&&> take .colon) then
    return [← within ({ · with allowConditionalType := true }) (returnType solve)]
  else
    return []

/-- Reads a function type from its type parameters to its return type. The type parameters come after
the parameters. -/
def functionType (solve : Solver) : Parse Tree := do
  let start ← here
  let generics ← if ← sees .less then typeParameters solve else pure []
  let parameters ← signatureParameters solve
  expect .arrow
  let result ← returnType solve
  node start (parameters ++ generics ++ [result])

/-- Whether an index signature stands here: a bracket, a name, and a colon or a comma. -/
def seesIndexSignature : Parse Bool :=
  looking do
    expect .lbracket
    check (← seesVariable)
    advance
    sees .colon <||> sees .comma

/-- Reads the end of a member of an object type. -/
def memberEnd : Parse Unit := do
  if !(← take .comma) then statementEnd

/-- Reads an index signature in brackets with its type. -/
def indexSignature (solve : Solver) : Parse Tree := do
  let start ← here
  expect .lbracket
  let name ← anyName
  if !(← take .comma) then expect .colon
  let key ← bracketed (solve.tree .type)
  expect .rbracket
  let mark ← typeMark? solve
  memberEnd
  node start (name :: key :: mark)

/-- Reads a signature from its type parameters to its return type. The type parameters come last. -/
def signature (solve : Solver) (start : Nat) (before : List Tree) : Parse Tree := do
  let generics ← if ← sees .less then typeParameters solve else pure []
  let parameters ← signatureParameters solve
  let result ← if ← sees .colon then returnMark? solve else pure []
  memberEnd
  node start (before ++ parameters ++ result ++ generics)

/-- Reads the name of a member of an object type. -/
def memberKey (solve : Solver) : Parse Tree := do
  let start ← here
  match (← token).kind with
  | .word _ _ | .privateName | .number | .quoted => leaf
  | .punctuator .lbracket =>
    advance
    let key ← bracketed (solve.tree .assignment)
    expect .rbracket
    node start [key]
  | _ => unexpected

/-- Reads a member of an object type that stands for a computed value, if one stands here. -/
def accessorSignature? (solve : Solver) : Parse (Option Tree) :=
  attempt do
    let start ← here
    let isGetter ← takeWord .get
    if !isGetter then expectWord .set
    let key ← memberKey solve
    if isGetter then
      expect .lparen
      expect .rparen
      let mark ← typeMark? solve
      memberEnd
      node start (key :: mark)
    else
      let parameters ← signatureParameters solve
      check !parameters.isEmpty
      memberEnd
      node start (key :: parameters.take 1)

/-- Reads one member of an object type. -/
def typeMember (solve : Solver) : Parse Tree := do
  let start ← here
  let second ← upcoming
  if ← (sees .lparen <||> sees .less) then signature solve start []
  else if (← seesWord .new) && (second.isMark .lparen || second.isMark .less) then
    advance
    signature solve start []
  else
    let isReadonly ← takeModifier [.readonly]
    if ← seesIndexSignature then indexSignature solve
    else
      let accessor ← if isReadonly then pure none else accessorSignature? solve
      match accessor with
      | some accessor => return accessor
      | none =>
        let key ← memberKey solve
        discard (take .question)
        if ← (sees .lparen <||> sees .less) then
          check !isReadonly
          signature solve start [key]
        else
          let mark ← typeMark? solve
          memberEnd
          node start (key :: mark)

/-- Reads the members of an object type in braces. -/
def typeMembers (solve : Solver) : Parse Tree := do
  let start ← here
  expect .lbrace
  let members ← bracketed (gather do
    if ← sees .rbrace then return none else return some (← typeMember solve))
  expect .rbrace
  node start members

/-- Whether a mapped type stands here. -/
def seesMappedType : Parse Bool :=
  looking do
    expect .lbrace
    if ← (take .plus <||> take .minus) then seesWord .readonly
    else
      discard (takeWord .readonly)
      expect .lbracket
      check (← seesVariable)
      advance
      seesWord .in_

/-- Reads an optional sign before a modifier of a mapped type, and the modifier. -/
def mappedModifier (modifier : Parse Bool) : Parse Unit := do
  if ← (take .plus <||> take .minus) then check (← modifier) else discard modifier

/-- Reads a mapped type in braces. -/
def mappedType (solve : Solver) : Parse Tree := do
  let start ← here
  expect .lbrace
  mappedModifier (takeWord .readonly)
  expect .lbracket
  let name ← anyName
  expectWord .in_
  let source ← solve.tree .type
  let renamed ← if ← takeWord .as then pure [← solve.tree .type] else pure []
  expect .rbracket
  mappedModifier (take .question)
  let mark ← if ← take .colon then pure [← solve.tree .type] else pure []
  statementEnd
  expect .rbrace
  node start (name :: source :: renamed ++ mark)

/-- Reads the label of a member of a tuple type, if it has one. -/
def tupleLabel? : Parse (Option Tree) :=
  attempt do
    discard (take .ellipsis)
    let name ← anyName
    discard (take .question)
    expect .colon
    return name

/-- Reads one member of a tuple type: a type, perhaps labelled, optional or spread. -/
def tupleMember (solve : Solver) : Parse Tree := do
  let start ← here
  let label ← tupleLabel?
  if ← take .ellipsis then node start (label.toList ++ [← solve.tree .type])
  else
    let type ← solve.tree .type
    discard (take .question)
    node start (label.toList ++ [type])

/-- Reads a dotted name. What follows a last dot may be missing. -/
def dottedName : Parse Tree := do
  let start ← here
  let first ← anyName
  let rest ← gather do
    if ← take .dot then
      if (← token).isWord then return some (← leaf)
      else
        check ((← token).kind != .privateName)
        return none
    else return none
  node start (first :: rest)

/-- Reads a template up to its end, its substitutions being read by the given parser. Only behind a tag
may an escape be anything. -/
def templateParts (tagged : Bool) (part : Parse Tree) : Parse (List Tree) := do
  let start ← here
  check (← sees .backquote)
  iterate [] fun found => do
    let cursor := (← lookahead).lexeme.after
    match Scan.templateFrom true false cursor.offset cursor.rest with
    | none => failAt start .unterminated
    | some piece =>
      resume piece.cursor
      check (tagged || piece.valid)
      if piece.isOpen then
        let inner ← bracketed part
        check (← sees .rbrace)
        return .inl (inner :: found)
      else
        return .inr found.reverse

/-- Reads the options of a reference to a module. -/
def importOptions (solve : Solver) : Parse (List Tree) := do
  if ← (take .comma <&&> take .lbrace) then
    expectWord .with_
    expect .colon
    check (← sees .lbrace)
    let value ← bracketed (solve.tree .assignment)
    discard (take .comma)
    expect .rbrace
    return [value]
  else
    return []

/-- Reads a reference to a module as a type. -/
def importType (solve : Solver) : Parse Tree := do
  let start ← here
  expectWord .import_
  expect .lparen
  check !(← token).isDone
  advance
  let options ← importOptions solve
  expect .rparen
  let path ← if ← take .dot then pure [← dottedName] else pure []
  let generics ← if ← sees .less then typeArguments solve else pure []
  node start (path ++ generics ++ options)

/-- The words that are types of their own and take no arguments. -/
def basicTypes : List Text :=
  ["any", "bigint", "boolean", "intrinsic", "never", "null", "number", "object", "string", "symbol",
    "undefined", "unknown", "void"].map String.toList

/-- Reads a type that is a name with its arguments. -/
def namedType (solve : Solver) : Parse Tree := do
  let start ← here
  takeAccessWord
  let name ← dottedName
  node start (name :: (← typeArguments? solve))

/-- Reads what a type that starts with `this` says. -/
def thisType (solve : Solver) : Parse Tree := do
  let start ← here
  let subject ← leaf
  let token ← token
  if token.isKeyword .is && !token.afterLine then
    advance
    node start [subject, ← solve.tree .type]
  else
    return subject

/-- Reads a type that starts with a word. -/
def wordType (solve : Solver) (keyword : Option Keyword) (name : Text) : Parse Tree := do
  let start ← here
  let next ← upcoming
  match keyword with
  | some .typeof =>
    advance
    let name ← if ← seesWord .import_ then importType solve else dottedName
    node start (name :: (← typeArguments? solve))
  | some .import_ => importType solve
  | some .this => thisType solve
  | some .true_ | some .false_ => leaf
  | _ =>
    let isAllowed := (← token).isName && keyword != some .let_
    check (isAllowed || [some .void, some .null, some .break_].contains keyword)
    if keyword == some .asserts && next.isKeyword .this then
      advance
      thisType solve
    else if basicTypes.contains name && !next.isMark .dot then leaf
    else namedType solve

/-- Reads a type without operators. -/
def primaryType (solve : Solver) : Parse Tree := do
  let start ← here
  match (← token).kind with
  | .number | .quoted => leaf
  | .word keyword name => wordType solve keyword name
  | .punctuator .lparen =>
    advance
    let inner ← bracketed (solve.tree .type)
    expect .rparen
    node start [inner]
  | .punctuator .lbracket =>
    advance
    node start (← bracketed (listUntil .rbracket (tupleMember solve)))
  | .punctuator .lbrace =>
    if ← seesMappedType then bracketed (mappedType solve) else typeMembers solve
  | .punctuator .minus =>
    advance
    check ((← token).kind = .number)
    leaf
  | .punctuator .backquote => node start (← templateParts false (solve.tree .type))
  | _ => unexpected

/-- Reads a type and the brackets that follow it on the same line. -/
def arrayType (solve : Solver) : Parse Tree := do
  let start ← here
  let first ← primaryType solve
  iterate first fun type => do
    let token ← token
    if token.isMark .lbracket && !token.afterLine then
      advance
      if ← take .rbracket then return .inl (← node start [type])
      else
        let index ← bracketed (solve.tree .type)
        expect .rbracket
        return .inl (← node start [type, index])
    else
      return .inr type

/-- Reads the name that a type binds, with a bound if one is meant. -/
def inferredType (solve : Solver) : Parse Tree := do
  let start ← here
  expectWord .infer
  let name ← anyName
  let bound ← attempt do
    expectWord .extends_
    let type ← within ({ · with allowConditionalType := false }) (solve.tree .type)
    check (!(← surroundings).allowConditionalType || !(← sees .question))
    pure type
  node start (name :: bound.toList)

/-- Whether a word is an operator on the type after it. -/
def isTypeOperator (token : Token) : Bool :=
  token.isKeyword .keyof || token.isKeyword .unique || token.isKeyword .readonly

/-- Reads operators on a type, and the type. -/
def operatorType (solve : Solver) : Parse Tree := do
  let start ← here
  discard (gather do
    if isTypeOperator (← token) then
      advance
      return some ()
    else return none)
  let inner ← if ← seesWord .infer then inferredType solve else arrayType solve
  node start [inner]

/-- Reads types with a sign between them, which may also stand before the first. -/
def typesBetween (mark : Punctuator) (item : Parse Tree) : Parse Tree := do
  let start ← here
  discard (take mark)
  let first ← item
  let rest ← gather do
    if ← take mark then return some (← item) else return none
  if rest.isEmpty then return first else node start (first :: rest)

/-- Reads alternatives of types. -/
def unionType (solve : Solver) : Parse Tree :=
  typesBetween .pipe (typesBetween .ampersand (operatorType solve))

/-- Reads the start of a parameter, and tells whether there was one. -/
def skipParameterStart (solve : Solver) : Parse Bool := do
  takeAccessWord
  if (← token).isWord then
    advance
    return true
  else if ← (sees .lbrace <||> sees .lbracket) then
    discard (solve .pattern)
    return true
  else
    return false

/-- Whether a function type starts here, which the start of its first parameter shows. -/
def seesFunctionType (solve : Solver) : Parse Bool := do
  if ← sees .less then return true
  else
    looking do
      expect .lparen
      if ← (sees .rparen <||> sees .ellipsis) then return true
      else if ← skipParameterStart solve then
        if ← (sees .colon <||> sees .comma <||> sees .question <||> sees .equal) then return true
        else
          expect .rparen
          sees .arrow
      else return false

/-- Reads a type that is no conditional type. -/
def plainType (solve : Solver) : Parse Tree := do
  let second ← upcoming
  if ← seesFunctionType solve then functionType solve
  else if (← seesWord .abstract_) && second.isKeyword .new then
    advance
    advance
    functionType solve
  else if ← takeWord .new then functionType solve
  else unionType solve

/-- Reads a type. -/
def type (solve : Solver) : Parse Tree := do
  let start ← here
  let left ← plainType solve
  let token ← token
  if (← surroundings).allowConditionalType && token.isKeyword .extends_ && !token.afterLine then
    advance
    let bound ← within ({ · with allowConditionalType := false }) (solve.tree .type)
    expect .question
    let positive ← solve.tree .type
    expect .colon
    let negative ← solve.tree .type
    node start [left, bound, positive, negative]
  else
    return left

end BraceLint.Grammar
