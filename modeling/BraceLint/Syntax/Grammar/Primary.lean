import BraceLint.Syntax.Grammar.Class
import BraceLint.Syntax.Grammar.Markup
import BraceLint.Syntax.Grammar.Operator

/-!
Operands: names, literals, functions, and what stands in parentheses. A list in parentheses turns out
to be the parameters of an arrow function only when the arrow follows, so its items are read as
expressions that may carry the marks of parameters, and what they are is decided at the end.
-/

namespace BraceLint.Grammar

open Parse

/-- Reads the two branches of a conditional expression from its question mark on. -/
def branches (solve : Solver) (start : Nat) (test : Tree) : Parse Tree := do
  expect .question
  let positive ← within ({ · with allowIn := true, inBranch := true }) (solve.tree .assignment)
  expect .colon
  let negative ← within ({ · with inBranch := false }) (solve.tree .assignment)
  node start [test, positive, negative]

/-! ### Lists in parentheses -/

/-- An item of a list in parentheses. -/
structure CoverItem where
  tree : Tree
  form : Form
  /-- Whether it is spread. -/
  isSpread : Bool := false
  /-- Whether it carries a mark that only a parameter has. -/
  isMarked : Bool := false

namespace CoverItem

/-- The item as a parameter. An expression that is none stands for nothing. -/
def parameter (item : CoverItem) : Parse Tree := do
  check (item.form != .fixed)
  if item.isMarked || [Form.name, .literal, .assigned].contains item.form then return item.tree
  else return .node item.tree.span []

/-- Whether an arrow can take the item for its parameter. -/
def isName (item : CoverItem) : Bool :=
  item.form == .name && !(item.isSpread && item.isMarked)

end CoverItem

/-- Items of a list as parameters. Only the last one can take all values that are left. -/
def coverParameters : List CoverItem → Parse (List Tree)
  | [] => return []
  | [item] => return [← item.parameter]
  | item :: items => do
    if item.isSpread then coverParameters items
    else return (← item.parameter) :: (← coverParameters items)

/-- Whether a token after a question mark shows that the mark makes a parameter optional. -/
def followsOptional (token : Token) : Bool :=
  token.isMark .comma || token.isMark .colon || token.isMark .rparen || token.isMark .equal

/-- Reads the marks of a parameter after an item. Only what can be a parameter carries them, and a type
after a value to fall back to is no part of the program. -/
def coverMarks (solve : Solver) (start : Nat) (item : CoverItem) (optional : Bool) :
    Parse CoverItem := do
  if optional || (← typed <&&> sees .colon) then
    check (item.isSpread || [Form.name, .literal, .assigned].contains item.form)
    let target ← item.parameter
    let mark ← typeMark? solve
    let mark := if item.form == .assigned && !item.isSpread then [] else mark
    let fallback ← if ← take .equal then pure [← solve.tree .assignment] else pure []
    let form := if fallback.isEmpty then item.form else .assigned
    return ⟨← node start (target :: mark ++ fallback), form, item.isSpread, true⟩
  else
    return item

/-- Reads an item that a name starts, in a typed dialect: a question mark after it may be a mark of a
parameter, so it does not start the branches of a conditional expression right away. -/
def namedItem (solve : Solver) : Parse CoverItem := do
  let start ← here
  if ← take .ellipsis then
    let inner ← solve (.binary 0)
    return { tree := ← node start [inner.tree], form := inner.form, isSpread := true }
  else
    let left ← assigned solve start (← solve (.binary 0))
    return { tree := left.tree, form := left.form }

/-- Whether a name starts the item here, which may be spread. -/
def seesNamedItem : Parse Bool := do
  let second ← upcoming
  typed <&&> (seesVariable <||> (sees .ellipsis <&&> isVariable second))

/-- Reads an item of a list in parentheses. -/
def coverItem (solve : Solver) : Parse CoverItem := do
  let start ← here
  within ({ · with arrowStart := some start }) do
    takeAccessWord
    let item ←
      if ← seesNamedItem then namedItem solve
      else
        let isSpread ← sees .ellipsis
        let inner ← spreadable solve
        pure { tree := inner.tree, form := inner.form, isSpread := isSpread }
    if ← (typed <&&> sees .question) then
      if followsOptional (← upcoming) then
        check (item.form == .name)
        advance
        coverMarks solve start item true
      else if item.isSpread then coverMarks solve start item false
      else
        let tree ← branches solve start item.tree
        coverMarks solve start { tree := tree, form := .operation } false
    else
      coverMarks solve start item false

/-- Reads a list in parentheses. An arrow that no item has taken makes a function of all items so far,
which becomes the next item; without a name to start with it has no meaning. -/
def cover (solve : Solver) : Parse (List CoverItem) := do
  expect .lparen
  bracketed (iterate [] fun found => do
    if ← take .rparen then return .inr found
    else
      let start ← here
      let found := found ++ [← coverItem solve]
      let found ←
        if ← (take .arrow <&&> pure (found.head?.any CoverItem.isName)) then
          let parameters ← coverParameters found
          let body ← arrowBody solve false
          pure (found ++ [{ tree := ← node start (parameters ++ [body]), form := .arrow }])
        else pure found
      if !(← sees .rparen) then expect .comma
      return .inl found)

/-! ### Arrow functions -/

/-- An arrow function from its parts. Its type parameters would come before its return type, which
comes last. -/
def arrowTree (start : Nat) (parameters : List Tree) (body : Tree) (result : List Tree) : Parse Tree := do
  node start (parameters ++ [body, ← node start result])

/-- Puts type parameters into an arrow function, before its return type. -/
def withGenerics (start : Nat) (generics : List Tree) (arrow : Tree) : Tree :=
  .node ⟨start, arrow.span.stop⟩ (arrow.children.dropLast ++ generics ++ arrow.children.getLast?.toList)

/-- Reads the rest of an arrow function with a return type in the first branch of a conditional
expression, if that is what follows: the colon of the conditional expression comes after it. -/
def branchArrow? (solve : Solver) (start : Nat) (isAsync : Bool) (items : List CoverItem) :
    Parse (Option Tree) := do
  if ← ((do return (← surroundings).inBranch) <&&> typed <&&> sees .colon) then
    attempt do
      let result ← returnMark? solve
      expect .arrow
      let parameters ← coverParameters items
      let body ← arrowBody solve isAsync
      check (← sees .colon)
      arrowTree start parameters body result
  else
    return none

/-- Reads the return type of an arrow function, if one stands here before an arrow. -/
def arrowResult? (solve : Solver) : Parse (Option (List Tree)) := do
  if ← (typed <&&> sees .colon <&&> (do return !(← surroundings).inBranch)) then
    attempt do
      let result ← returnMark? solve
      check (← sees .arrow)
      pure result
  else
    return none

/-- Reads what starts with a parenthesis: an arrow function, the arguments of a call to `async`, or
an expression in parentheses. An operator right after the braces of an arrow function takes it for its
operand. -/
def parenthesized (solve : Solver) (start : Nat) (canArrow : Bool) (callee : Option Tree) :
    Parse Parsed := do
  let isAsync := callee.isSome
  let items ← cover solve
  match ← branchArrow? solve start isAsync items with
  | some arrow => return ⟨arrow, .arrow⟩
  | none =>
    let result ← arrowResult? solve
    if items.any CoverItem.isMarked || result.isSome || (← sees .arrow) then
      check (canArrow && !(← token).afterLine)
      expect .arrow
      let parameters ← coverParameters items
      let body ← arrowBody solve isAsync
      let arrow ← arrowTree start parameters body (result.getD [])
      if body.isBlock && (← seesSign) then operators solve start 0 ⟨arrow, .other⟩
      else return ⟨arrow, .arrow⟩
    else
      let trees := items.map CoverItem.tree
      match callee with
      | some callee => return ⟨← node start (callee :: trees), .other⟩
      | none =>
        check (!trees.isEmpty && !(items.any CoverItem.isSpread))
        return ⟨← node start trees, .target⟩

/-- Reads a generic asynchronous arrow function after the word `async`. -/
def genericAsyncArrow (solve : Solver) (start : Nat) : Parse Tree := do
  let generics ← typeParameters solve
  expect .lparen
  let parameters ← parametersFrom solve
  let result ← returnMark? solve
  expect .arrow
  let body ← arrowBody solve true
  let arrow ← arrowTree start (parameters.map Parameter.target) body result
  return withGenerics start generics arrow

/-- Reads an arrow function whose only parameter is a name without parentheses, after that name. -/
def namedArrow (solve : Solver) (start : Nat) (isAsync : Bool) (name : Tree) : Parse Parsed := do
  expect .arrow
  let body ← arrowBody solve isAsync
  return ⟨← arrowTree start [name] body [], .arrow⟩

/-! ### Words -/

/-- Reads what comes after the word `async` and starts with a name on the same line: an asynchronous
arrow function, or a type that the word has. -/
def asyncNamed (solve : Solver) (start : Nat) (word : Tree) : Parse Parsed := do
  let isOf ← seesWord .of
  if isOf && (← surroundings).inForStart && !(← upcoming).isMark .arrow then return ⟨word, .name⟩
  else
    let isAssertion ← (typed <&&> seesWord .as)
    let name ← bindingName false
    if isAssertion && !(← sees .arrow) then
      return ⟨← node start [word, ← solve.tree .type], .target⟩
    else
      namedArrow solve start true name

/-- Reads an operand that is a name, or an arrow function that starts with one. -/
def nameOperand (solve : Solver) (canArrow : Bool) : Parse Parsed := do
  let start ← here
  let isAsync ← seesWord .async
  let name ← leaf
  let next ← token
  if next.afterLine || !canArrow then return ⟨name, .name⟩
  else if isAsync && (← seesVariable) then asyncNamed solve start name
  else if next.isMark .arrow then namedArrow solve start false name
  else return ⟨name, .name⟩

/-- Reads what starts with the word `async`. -/
def asyncOperand (solve : Solver) (canArrow : Bool) : Parse Parsed := do
  let start ← here
  let second ← upcoming
  if second.isKeyword .function && !second.afterLine then
    advance
    return ⟨← function solve start true .expression [], .other⟩
  else
    let generic ←
      if canArrow && (← typed) && second.isMark .less then
        attempt (do advance; genericAsyncArrow solve start)
      else pure none
    match generic with
    | some arrow => return ⟨arrow, .arrow⟩
    | none =>
      if canArrow && second.isMark .lparen && !second.afterLine then
        let callee ← leaf
        parenthesized solve start canArrow (some callee)
      else nameOperand solve canArrow

/-- Reads what starts with the word `import` inside an expression: what is known about the module
itself, or a call that may name a phase. -/
def importOperand (solve : Solver) (canCall : Bool) : Parse Tree := do
  let start ← here
  expectWord .import_
  if ← take .dot then
    if ← takeWord .meta_ then node start []
    else
      check (← takeWord .defer <||> takeWord .source)
      check canCall
      node start (← callArguments solve)
  else
    check canCall
    node start (← callArguments solve)

/-! ### Literals -/

/-- Reads a regular expression from its first slash on. -/
def regularExpression : Parse Tree := do
  let start ← here
  let cursor := (← lookahead).lexeme.here
  match Scan.patternFrom false (cursor.offset + 1) (cursor.rest.drop 1) with
  | some after =>
    resume after
    node start []
  | none => failAt start .unterminated

/-- Reads one element of an array literal; between two commas there may be none. -/
def arrayElement (solve : Solver) : Parse Parsed := do
  if ← sees .comma then return ⟨← absent, .other⟩ else spreadable solve

/-- Reads an array literal. -/
def array (solve : Solver) : Parse Parsed := do
  let start ← here
  expect .lbracket
  let elements ← bracketed (listUntil .rbracket (arrayElement solve))
  let form := if elements.any (·.form == .fixed) then Form.fixed else .literal
  return ⟨← node start (elements.map Parsed.tree), form⟩

/-! ### Operands -/

/-- Reads an operand that may have decorators. Only a class keeps them. -/
def decoratedOperand (solve : Solver) (canArrow : Bool) : Parse Parsed := do
  let start ← here
  let marks ← decorators solve
  let token ← token
  if token.isKeyword .class_ then return ⟨← classDefinition solve start marks false, .other⟩
  else if token.isKeyword .let_ || (← isVariable token) then nameOperand solve (canArrow && marks.isEmpty)
  else
    check (token.kind == .privateName)
    return ⟨← leaf, .other⟩

/-- Reads an operand without what may follow it. -/
def primary (solve : Solver) : Parse Parsed := do
  let start ← here
  let canArrow := (← surroundings).arrowStart == some start
  match (← token).kind with
  | .word (some .this) _ | .word (some .null) _ | .word (some .true_) _ | .word (some .false_) _
  | .number | .quoted => return ⟨← leaf, .other⟩
  | .word (some .function) _ => return ⟨← function solve start false .expression [], .other⟩
  | .word (some .async) _ => asyncOperand solve canArrow
  | .punctuator .lparen => parenthesized solve start canArrow none
  | .punctuator .lbracket => array solve
  | .punctuator .lbrace => object solve
  | .punctuator .backquote => return ⟨← node start (← templateParts false (solve.tree .expression)), .other⟩
  | .punctuator .slash | .punctuator .slashEqual => return ⟨← regularExpression, .other⟩
  | _ => decoratedOperand solve canArrow

end BraceLint.Grammar
