import BraceLint.Syntax.Grammar.Name

/-!
Binding targets and the parameters of functions, of constructors and of function types.
-/

namespace BraceLint.Grammar

open Parse

/-- Reads a colon and a type, if a typed dialect has them here. -/
def typeMark? (solve : Solver) : Parse (List Tree) := do
  if ← (typed <&&> take .colon) then
    return [← within ({ · with allowConditionalType := true }) (solve.tree .type)]
  else
    return []

/-- Reads the value that something falls back to, if an equals sign announces one. -/
def fallback? (solve : Solver) : Parse (List Tree) := do
  if ← take .equal then return [← bracketed (solve.tree .assignment)] else return []

/-- Reads the question mark that may follow a pattern in a place that only declares. -/
def optionalMark : Parse Unit := do
  if (← surroundings).ambient then discard (take .question)

/-- Reads a binding target with the value it falls back to. -/
def patternWithDefault (solve : Solver) : Parse Tree := do
  let start ← here
  let target ← solve.tree .pattern
  let fallback ← fallback? solve
  node start (target :: fallback)

/-- Reads one element of an array target; between two commas there may be none. -/
def arrayTarget (solve : Solver) : Parse Tree := do
  let start ← here
  if ← sees .comma then node start []
  else if ← take .ellipsis then node start [← solve.tree .pattern]
  else patternWithDefault solve

/-- One property of an object target, and whether it is a pattern for all other properties. -/
structure TargetProperty where
  tree : Tree
  isRestPattern : Bool := false

/-- Reads one property of an object target. -/
def objectTarget (solve : Solver) : Parse TargetProperty := do
  let start ← here
  if ← take .ellipsis then
    let isPattern ← (sees .lbracket <||> sees .lbrace)
    return ⟨← node start [← solve.tree .pattern], isPattern⟩
  else
    let first ← token
    let key ← propertyKey solve
    if ← take .colon then return ⟨← node start [key, ← patternWithDefault solve], false⟩
    else
      check first.isWord
      return ⟨← node start (key :: (← fallback? solve)), false⟩

/-- Reads a binding target: a name, or a pattern in brackets or braces. All other properties of an
object go under a name. -/
def pattern (solve : Solver) : Parse Tree := do
  let start ← here
  if ← take .lbracket then
    let elements ← bracketed (listUntil .rbracket (arrayTarget solve))
    optionalMark
    node start elements
  else if ← take .lbrace then
    let properties ← bracketed (listUntil .rbrace (objectTarget solve))
    check !(properties.getLast?.any TargetProperty.isRestPattern)
    optionalMark
    node start (properties.map TargetProperty.tree)
  else
    bindingName false

/-- Whether a word before a parameter or a property says who may use it. -/
def isAccessWord (token : Token) : Bool :=
  [Keyword.public_, .private_, .protected_, .readonly].any token.isKeyword

/-- Reads one word that says who may use what follows, if one stands here in a typed dialect. -/
def takeAccessWord : Parse Unit := do
  let next ← upcoming
  if (← typed) && isAccessWord (← token) && !next.afterLine &&
      (next.isWord || next.isMark .lbrace || next.isMark .lbracket) then
    advance

/-- Whether the word that is looked at modifies the member or the parameter that the next token on the
same line starts. -/
def seesModifier (words : List Keyword) : Parse Bool := do
  let next ← upcoming
  return (← typed) && words.any (← token).isKeyword && !next.afterLine &&
    (startsKey next || next.isMark .lbrace || next.isMark .star || next.isMark .ellipsis)

/-- Reads a modifier if one of the given words stands here, and tells whether one did. -/
def takeModifier (words : List Keyword) : Parse Bool := do
  if ← seesModifier words then
    advance
    return true
  else
    return false

/-- A parameter. -/
structure Parameter where
  /-- The decorators before it. -/
  marks : List Tree
  target : Tree
  start : Nat
  /-- Whether it takes one value apart or falls back to a value, so that it is no plain name. -/
  isPattern : Bool
  /-- Whether it falls back to a value. -/
  hasDefault : Bool
  /-- Whether it takes all values that are left. -/
  isRest : Bool

namespace Parameter

/-- The tree of a parameter of a function. -/
def tree (parameter : Parameter) : Tree :=
  .node ⟨parameter.start, parameter.target.span.stop⟩ (parameter.marks ++ [parameter.target])

end Parameter

/-- Reads a parameter that takes all values that are left. Its fallback comes before its type. -/
def restParameter (solve : Solver) (start : Nat) (marks : List Tree) (allowDefault : Bool) :
    Parse Parameter := do
  let inner ← here
  expect .ellipsis
  let target ← solve.tree .pattern
  let fallback ← if allowDefault then fallback? solve else pure []
  let type ← typeMark? solve
  if allowDefault && (← typed) then discard (take .question)
  let target ← node inner (target :: type ++ fallback)
  return ⟨marks, target, start, true, false, true⟩

/-- Reads a parameter that takes one value. Only what has no fallback can be optional, unless the place
only declares. -/
def singleParameter (solve : Solver) (start : Nat) (marks : List Tree) : Parse Parameter := do
  takeAccessWord
  let inner ← here
  let isName := (← token).isWord
  let target ← solve.tree .pattern
  let early ← fallback? solve
  if ← typed then
    if ← take .question then check (early.isEmpty || (← surroundings).ambient)
  let type ← typeMark? solve
  let late ← fallback? solve
  let target ← node inner (target :: (if early.isEmpty then type else []) ++ early ++ late)
  return ⟨marks, target, start, !isName, !(early.isEmpty && late.isEmpty), false⟩

/-- Reads one parameter of a function with its decorators. -/
def parameter (solve : Solver) : Parse Parameter := do
  let start ← here
  let marks ← decorators solve
  if ← sees .ellipsis then restParameter solve start marks true
  else singleParameter solve start marks

/-- Reads the parameters of a function after the opening parenthesis. -/
def parametersFrom (solve : Solver) : Parse (List Parameter) :=
  bracketed (listUntil .rparen (parameter solve))

/-- Reads the parameters of a function in parentheses. -/
def parameters (solve : Solver) : Parse (List Tree) := do
  expect .lparen
  return (← parametersFrom solve).map Parameter.tree

/-- Reads one parameter of a constructor. One that makes a property of the class is a name, perhaps
with a fallback. -/
def constructorParameter (solve : Solver) : Parse Tree := do
  let start ← here
  let marks ← decorators solve
  if ← sees .ellipsis then
    return (← restParameter solve start marks false).tree
  else
    let hasAccess ← takeModifier [.public_, .protected_, .private_]
    let hasOverride ← takeModifier [.override]
    let isReadonly ← takeModifier [.readonly]
    let parameter ← singleParameter solve start marks
    check (!(hasAccess || hasOverride || isReadonly) || !parameter.isPattern || parameter.hasDefault)
    return parameter.tree

/-- Reads the parameters of a function type after the opening parenthesis. They fall back to no
value, and their decorators are not part of the type. -/
def signatureParameters (solve : Solver) : Parse (List Tree) := do
  expect .lparen
  let found ← parametersFrom solve
  check !(found.any Parameter.hasDefault)
  return found.map Parameter.target

end BraceLint.Grammar
