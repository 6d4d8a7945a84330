import BraceLint.Syntax.Grammar.Primary

/-!
Expressions: members and calls, operators, conditional expressions, assignments and lists. An operand
that is missing before a binary operator or after a sign is passed over.
-/

namespace BraceLint.Grammar

open Parse

/-- Whether a token can start an expression. -/
def startsExpression (token : Token) : Bool :=
  match token.kind with
  | .number | .quoted | .privateName => true
  | .word keyword _ =>
    token.isName || [some .this, some .super, some .null, some .true_, some .false_,
      some .function, some .class_, some .new, some .import_, some .typeof, some .void,
      some .delete].contains keyword
  | .punctuator mark =>
    [.lparen, .lbracket, .lbrace, .backquote, .slash, .slashEqual, .bang, .tilde, .plus, .minus,
      .plusPlus, .minusMinus, .less].contains mark
  | _ => false

/-- Whether a token is a binary operator. -/
def isOperator (token : Token) : Bool :=
  token.mark?.any (fun mark => (markLevel? mark).isSome) ||
    [Keyword.in_, .instanceof, .as, .satisfies].any token.isKeyword

/-! ### Members and calls -/

/-- What may follow an operand to make a longer one. -/
structure Reach where
  /-- Arguments in parentheses. -/
  calls : Bool := true
  /-- An expression in brackets. -/
  indexes : Bool := true
  /-- A question mark and a dot. -/
  chains : Bool := true

namespace Reach

/-- What may follow the operand of `new`, whose arguments belong to the operator. -/
def construction : Reach := { calls := false, chains := false }

/-- What may follow the name in a decorator. -/
def decorator : Reach := { indexes := false }

/-- What may follow a name that a type builds on. -/
def heritage : Reach := { calls := false, indexes := false, chains := false }

end Reach

/-- Whether type arguments without a call can end before a token. A comparison is meant instead where
an operand or a sign follows on the same line. -/
def followsTypeArguments (token : Token) : Bool :=
  match token.kind with
  | .punctuator .lparen | .punctuator .backquote | .punctuator .less | .punctuator .greater
  | .punctuator .plus | .punctuator .minus => false
  | _ => token.afterLine || isOperator token || !startsExpression token

/-- Reads an expression in brackets. -/
def index (solve : Solver) : Parse Tree := do
  expect .lbracket
  let inner ← bracketed (solve.tree .expression)
  expect .rbracket
  return inner

/-- Reads what follows a question mark and a dot. The type arguments of a call come after the others. -/
def optionalPart (solve : Solver) : Parse (List Tree) := do
  let token ← token
  if token.isMark .lbracket then return [← index solve]
  else if token.isMark .lparen then callArguments solve
  else if ← (typed <&&> (sees .less <||> sees .lessLess)) then
    let generics ← typeArguments solve
    return (← callArguments solve) ++ generics
  else return [← memberName]

/-- Reads type arguments after an operand, with the call or the template they belong to, if that is
what stands here. -/
def genericPart? (solve : Solver) (reach : Reach) : Parse (Option (List Tree × Form)) :=
  attempt do
    let generics ← typeArguments solve
    let next ← token
    if next.isMark .lparen && reach.calls then
      return ((← callArguments solve) ++ generics, .other)
    else if next.isMark .backquote then
      return (generics ++ (← templateParts true (solve.tree .expression)), .other)
    else
      check (followsTypeArguments next)
      return (generics, .target)

/-- Reads members, calls and templates after an operand. -/
def subscripts (solve : Solver) (start : Nat) (reach : Reach) (first : Parsed) : Parse Parsed :=
  iterate first fun left => do
    let onto (form : Form) (parts : List Tree) : Parse (Parsed ⊕ Parsed) := do
      return .inl ⟨← node start (left.tree :: parts), form⟩
    let token ← token
    match token.mark? with
    | some .dot =>
      advance
      onto .target [← memberName]
    | some .questionDot =>
      check reach.chains
      advance
      onto .target (← optionalPart solve)
    | some .lbracket => if reach.indexes then onto .target [← index solve] else return .inr left
    | some .lparen => if reach.calls then onto .other (← callArguments solve) else return .inr left
    | some .backquote => onto .other (← templateParts true (solve.tree .expression))
    | some .bang =>
      if (← typed) && !token.afterLine then
        advance
        onto .target []
      else return .inr left
    | some .less | some .lessLess =>
      match ← if ← typed then genericPart? solve reach else pure none with
      | some (parts, form) => onto form parts
      | none => return .inr left
    | _ => return .inr left

/-- Reads an operand with the members and calls after it. An arrow function has none. -/
def operand (solve : Solver) (reach : Reach) : Parse Parsed := do
  let start ← here
  match (← token).keyword? with
  | some .super =>
    let word ← leaf
    check (← sees .dot <||> sees .lbracket <||> (pure reach.calls <&&> sees .lparen))
    subscripts solve start reach ⟨word, .other⟩
  | some .import_ => subscripts solve start reach ⟨← importOperand solve reach.calls, .other⟩
  | some .new => subscripts solve start reach (← solve .construction)
  | _ =>
    let first ← primary solve
    if first.form == .arrow then return first else subscripts solve start reach first

/-- Reads calls and members, or a markup element. -/
def leftHand (solve : Solver) : Parse Parsed := do
  if (← surroundings).dialect.markup && (← sees .less) then
    let tree ← solve.tree .element
    advance
    return ⟨tree, .other⟩
  else
    operand solve {}

/-- Reads the type arguments of a call that follows. -/
def callGenerics (solve : Solver) : Parse (List Tree) := do
  if ← (typed <&&> (sees .less <||> sees .lessLess)) then
    let generics ← attempt do
      let generics ← typeArguments solve
      check (← sees .lparen)
      pure generics
    return generics.getD []
  else
    return []

/-- Reads a `new` expression. -/
def construction (solve : Solver) : Parse Parsed := do
  let start ← here
  expectWord .new
  if ← take .dot then
    expectWord .target
    return ⟨← node start [], .other⟩
  else
    let callee ← operand solve .construction
    let generics ← callGenerics solve
    let parts ← if ← sees .lparen then callArguments solve else pure []
    return ⟨← node start (callee.tree :: parts ++ generics), .other⟩

/-- Reads a decorator. It may call what it names. -/
def decorator (solve : Solver) : Parse Tree := do
  let start ← here
  expect .at
  let inner ← here
  let named ←
    if ← take .lparen then
      let tree ← bracketed (solve.tree .expression)
      expect .rparen
      pure tree
    else
      let name ← identifier false false
      let named ← subscripts solve inner .decorator ⟨name, .name⟩
      pure named.tree
  let isGeneric ← (typed <&&> sees .less)
  let generics ← if isGeneric then typeArguments solve else pure []
  let parts ← if isGeneric || (← sees .lparen) then callArguments solve else pure []
  node start (named :: parts ++ generics)

/-- Reads the name of a class or of a type that another one builds on, with its type arguments. -/
def ancestor (solve : Solver) : Parse Tree := do
  let start ← here
  let name ← anyName
  let named ← subscripts solve start .heritage ⟨name, .name⟩
  let generics ← if ← sees .less then typeArguments solve else pure []
  node start (named.tree :: generics)

/-! ### Operators -/

/-- Whether the word `await` is a name before the token that is looked at. Outside of asynchronous
functions it is one where a list or a statement ends. -/
def endsAwait : Parse Bool := do
  let next ← token
  return !(← surroundings).inAsync &&
    ((← seesStatementEnd) || [Punctuator.rparen, .rbracket, .comma].any next.isMark)

/-- Reads what starts with the word `await`. -/
def awaited (solve : Solver) : Parse Parsed := do
  let start ← here
  let word ← leaf
  check !(← sees .star)
  if ← endsAwait then return ⟨word, .name⟩
  else
    let inner ← solve.tree .unary
    return ⟨← node start [inner], .signed⟩

/-- Reads a type assertion in angle brackets. -/
def angled (solve : Solver) : Parse Parsed := do
  let start ← here
  expect .less
  let type ← bracketed (if ← seesWord .const then leaf else solve.tree .type)
  expect .greater
  let inner ← solve.tree .unary
  return ⟨← node start [inner, type], .target⟩

/-- Whether a token is an operator before its only operand. -/
def isUnarySign (token : Token) : Bool :=
  [Punctuator.plus, .minus, .bang, .tilde].any token.isMark ||
    [Keyword.typeof, .void, .delete].any token.isKeyword

/-- Whether a token is one of the two signs that count. -/
def isStep (token : Token) : Bool :=
  token.isMark .plusPlus || token.isMark .minusMinus

/-- Whether reading can go on after an error. -/
def isRecoverable (error : SyntaxError) : Bool :=
  error.cause != .tooDeep

/-- Reads an operand after a sign. One that cannot be read is passed over. -/
def signedOperand (solve : Solver) : Parse Tree := do
  match ← recover (solve .unary) with
  | .ok inner => return inner.tree
  | .error error => if isRecoverable error then absent else failWith error

/-- Reads an operand with the signs before and after it. -/
def unary (solve : Solver) : Parse Parsed := do
  let start ← here
  let first ← token
  if first.isMark .less && !(← surroundings).dialect.markup then angled solve
  else if isStep first then
    advance
    return ⟨← node start [← solve.tree .unary], .operation⟩
  else if isUnarySign first then
    advance
    return ⟨← node start [← signedOperand solve], .signed⟩
  else if first.isKeyword .await then awaited solve
  else
    let inner ← leftHand solve
    let next ← token
    if isStep next && !next.afterLine && inner.form != .arrow then
      advance
      return ⟨← node start [inner.tree], .operation⟩
    else
      return inner

/-- Reads the operand that a chain of operators starts with. One that cannot be read is passed over
where an operator follows. -/
def firstOperand (solve : Solver) : Parse Parsed := do
  match ← recover (solve .unary) with
  | .ok first => return first
  | .error error =>
    if isRecoverable error && (← operator?).isSome then return ⟨← absent, .other⟩
    else failWith error

/-- Reads operands with operators that bind more tightly than a level. -/
def binary (solve : Solver) (level : Nat) : Parse Parsed := do
  let start ← here
  let first ← if level == 0 then firstOperand solve else solve .unary
  if first.form == .arrow then return first else operators solve start level first

/-! ### Assignments and lists -/

/-- Whether a `yield` expression has a value here. -/
def seesYielded : Parse Bool := do
  let token ← token
  return !(← seesStatementEnd) && (token.isMark .star || startsExpression token)

/-- Reads a `yield` expression. There is none in the parameters of a generator. -/
def yielded (solve : Solver) : Parse Parsed := do
  let start ← here
  expectWord .yield
  check !(← surroundings).inParameters
  if ← seesYielded then
    discard (take .star)
    return ⟨← node start [← solve.tree .assignment], .other⟩
  else
    return ⟨← node start [], .other⟩

/-- Reads an expression without commas that has no type parameters of its own. -/
def plainAssignment (solve : Solver) : Parse Parsed := do
  let start ← here
  let first ← token
  if (← surroundings).inGenerator && first.isKeyword .yield then yielded solve
  else
    let arrowStart := if first.isMark .lparen || first.isWord then some start else none
    let left ← within ({ · with arrowStart := arrowStart }) (binary solve 0)
    if left.form == .arrow then return left
    else if ← sees .question then return ⟨← branches solve start left.tree, .operation⟩
    else assigned solve start left

/-- Reads a generic arrow function. -/
def genericArrow (solve : Solver) : Parse Parsed :=
  within ({ · with inBranch := false }) do
    let start ← here
    check (← upcoming).isWord
    let generics ← typeParameters solve
    let arrow ← plainAssignment solve
    check (arrow.form == .arrow)
    return ⟨withGenerics start generics arrow.tree, .arrow⟩

/-- Reads an expression without commas. What starts with a less-than sign in a typed dialect may be a
generic arrow function, unless it can be a markup element. -/
def assignment (solve : Solver) : Parse Parsed := do
  let around ← surroundings
  if around.dialect.typed && (← sees .less) then
    if !around.dialect.markup then
      match ← attempt (genericArrow solve) with
      | some arrow => return arrow
      | none => plainAssignment solve
    else if around.inAttribute then plainAssignment solve
    else firstOf (plainAssignment solve) (genericArrow solve)
  else plainAssignment solve

/-- Reads expressions with commas between them. -/
def expression (solve : Solver) : Parse Parsed := do
  let start ← here
  let first ← solve .assignment
  if ← take .comma then
    let rest ← separated (solve.tree .assignment)
    return ⟨← node start (first.tree :: rest), .other⟩
  else
    return first

end BraceLint.Grammar
