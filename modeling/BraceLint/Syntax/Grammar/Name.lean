import BraceLint.Syntax.Parse

/-!
Names of variables and of properties, argument lists and decorators: the small productions that the
rest of the grammar shares. Which words can name a variable depends on the surroundings.
-/

namespace BraceLint.Grammar

open Parse

/-- Whether a token can start the name of a property. -/
def startsKey (token : Token) : Bool :=
  match token.kind with
  | .word _ _ | .privateName | .number | .quoted => true
  | .punctuator mark => mark == .lbracket
  | _ => false

/-- Whether a word refers to a variable here. Some words do so only outside of strict code, and the
words of generators and of asynchronous functions only outside of them. -/
def isVariable (token : Token) : Parse Bool := do
  let around ← surroundings
  let strict ← isStrict
  match token.keyword? with
  | some .yield => return !(around.inGenerator || strict)
  | some .await =>
    return !(around.inAsync || around.inStaticBlock || (← lookahead).inModule)
  | some .let_ | some .implements | some .interface | some .package_ | some .private_
  | some .protected_ | some .public_ => return !strict
  | _ => return token.isName

/-- Whether the token that is looked at refers to a variable. -/
def seesVariable : Parse Bool := do
  isVariable (← token)

/-- Whether the word `await` may be declared or referred to as a name. -/
def allowsAwaitName : Parse Bool := do
  let around ← surroundings
  return around.ambient || !(around.inAsync || around.inStaticBlock || (← lookahead).inModule)

/-- Reads a name, where the words of generators may or may not be names. -/
def identifier (allowYield allowAwait : Bool) : Parse Tree := do
  let token ← token
  match token.keyword? with
  | some .yield => check allowYield
  | some .await => check (allowAwait && (← allowsAwaitName))
  | some .this => check (← typed)
  | some .enum => pure ()
  | _ => check token.isName
  leaf

/-- Reads the name that a declaration gives to something. What is declared with `let` or `const` and a
class are not called `let`. -/
def bindingName (lexical : Bool) : Parse Tree := do
  check (!(lexical && (← seesWord .let_)))
  identifier true true

/-- Reads the name of a label. -/
def labelName : Parse Tree := do
  let around ← surroundings
  identifier (!around.inGenerator) (!around.inAsync)

/-- Reads any word, reserved or not. -/
def anyName : Parse Tree := do
  check (← token).isWord
  leaf

/-- Reads the name of a member after a dot. -/
def memberName : Parse Tree := do
  match (← token).kind with
  | .word _ _ | .privateName => leaf
  | _ => unexpected

/-- Reads the name of a property: a word, a literal, or an expression in brackets. In a typed dialect
the brackets may hold more than one expression. -/
def propertyKey (solve : Solver) : Parse Tree := do
  let start ← here
  match (← token).kind with
  | .word _ _ | .number | .quoted => leaf
  | .punctuator .lbracket =>
    advance
    let key ← bracketed (solve.tree (if ← typed then .expression else .assignment))
    expect .rbracket
    node start [key]
  | _ => unexpected

/-- Reads the name of a member of a class, which may be private. -/
def classKey (solve : Solver) : Parse Tree := do
  if (← token).kind = .privateName then leaf else propertyKey solve

/-- Reads an expression that may be spread over a list. -/
def spreadable (solve : Solver) : Parse Parsed := do
  let start ← here
  if ← take .ellipsis then
    let inner ← solve .assignment
    return ⟨← node start [inner.tree], inner.form⟩
  else
    solve .assignment

/-- Reads arguments in parentheses. -/
def callArguments (solve : Solver) : Parse (List Tree) := do
  expect .lparen
  bracketed (listUntil .rparen (do return (← spreadable solve).tree))

/-- Reads the decorators that stand here. -/
def decorators (solve : Solver) : Parse (List Tree) :=
  gather do
    if ← sees .at then return some (← solve.tree .decorator) else return none

end BraceLint.Grammar
