import BraceLint.Syntax.Dialect
import BraceLint.Syntax.Scan
import BraceLint.Syntax.Tree

/-!
Parsers as functions of the surroundings and the token that is looked at. A parser reads one token
ahead; it can look one further, and it can be attempted, which costs nothing when it fails. A parser
that fails tells how far it came, so that the reader can also go on from there. The productions of the
grammar reach each other through a `Goal`, so each of them is a plain function of the solver for the
goals inside it, and the solver is tied together once, with a bound on the depth.
-/

namespace BraceLint

/-- Why a text is not a program. -/
inductive SyntaxCause where
  /-- The token at the offset cannot stand there. -/
  | unexpected
  /-- The literal at the offset has no end. -/
  | unterminated
  /-- The program is nested more deeply than its length allows. -/
  | tooDeep
deriving DecidableEq, Repr

/-- A text that is not a program: where reading it stopped, and why. -/
structure SyntaxError where
  offset : Nat
  cause : SyntaxCause
deriving DecidableEq, Repr

namespace SyntaxError

/-- The error in words. -/
def message (error : SyntaxError) : String :=
  match error.cause with
  | .unexpected => s!"unexpected token at byte {error.offset}"
  | .unterminated => s!"unterminated literal at byte {error.offset}"
  | .tooDeep => s!"too much nesting at byte {error.offset}"

end SyntaxError

namespace Grammar

/-- What surrounds the place that is being read. -/
structure Surroundings where
  dialect : Dialect
  /-- More than the number of tokens in the text. -/
  limit : Nat
  /-- Whether `in` is an operator here. -/
  allowIn : Bool := true
  /-- Whether the innermost function is asynchronous. -/
  inAsync : Bool := false
  /-- Whether the innermost function is a generator. -/
  inGenerator : Bool := false
  /-- Whether the place is in the parameters of the innermost function. -/
  inParameters : Bool := false
  /-- Whether the place is in a static block of a class. -/
  inStaticBlock : Bool := false
  /-- Whether the place is at the start of a `for` statement. -/
  inForStart : Bool := false
  /-- Whether the code is strict, so that more words are reserved. -/
  strict : Bool := false
  /-- The offset at which a parameter list of an arrow function may start. -/
  arrowStart : Option Nat := none
  /-- Whether the place is the first branch of a conditional expression, which a colon ends. -/
  inBranch : Bool := false
  /-- Whether the place is the value of an attribute of a markup element. -/
  inAttribute : Bool := false
  /-- Whether a type may be a conditional type. -/
  allowConditionalType : Bool := true
  /-- Whether the place only declares what is defined elsewhere. -/
  ambient : Bool := false

/-- The token that is looked at, and what is known from the tokens before it. -/
structure Lookahead where
  lexeme : Scan.Lexeme
  /-- Where the token before it ended. -/
  lastStop : Nat
  /-- Whether the file is known to be a module, whose code is strict. -/
  inModule : Bool

namespace Lookahead

/-- Moves on to the token after a cursor, as if the token that was looked at ended there. -/
def movedTo (ahead : Lookahead) (cursor : Cursor) : Lookahead :=
  { ahead with lexeme := Scan.next cursor false, lastStop := cursor.offset }

/-- Moves on to the next token. -/
def moved (ahead : Lookahead) : Lookahead :=
  { ahead with
    lexeme := Scan.next ahead.lexeme.after false
    lastStop := ahead.lexeme.token.span.stop }

end Lookahead

/-- An error, and where a reader can go on after it. -/
structure Failure where
  error : SyntaxError
  ahead : Lookahead

/-- A parser. -/
def Parse (α : Type) : Type :=
  Surroundings → Lookahead → Except Failure (α × Lookahead)

namespace Parse

instance : Monad Parse where
  pure a := fun _ ahead => .ok (a, ahead)
  bind p f := fun around ahead =>
    match p around ahead with
    | .ok (a, ahead) => f a around ahead
    | .error failure => .error failure

/-- The surroundings. -/
def surroundings : Parse Surroundings :=
  fun around ahead => .ok (around, ahead)

/-- The state of the reader. -/
def lookahead : Parse Lookahead :=
  fun _ ahead => .ok (ahead, ahead)

/-- Reads in changed surroundings. -/
def within (change : Surroundings → Surroundings) (p : Parse α) : Parse α :=
  fun around ahead => p (change around) ahead

/-- Fails because of an offset. What stands before an invalid token is not read again, and neither is
the token. -/
def failAt (offset : Nat) (cause : SyntaxCause) : Parse α :=
  fun _ ahead =>
    .error ⟨⟨offset, cause⟩, if ahead.lexeme.token.kind = .invalid then ahead.moved else ahead⟩

/-- Fails with an error that was met before. -/
def failWith (error : SyntaxError) : Parse α :=
  fun _ ahead => .error ⟨error, ahead⟩

/-- Tries a parser; when it fails, nothing has been read. -/
def attempt (p : Parse α) : Parse (Option α) :=
  fun around ahead =>
    match p around ahead with
    | .ok (a, ahead) => .ok (some a, ahead)
    | .error _ => .ok (none, ahead)

/-- Reads as far as a parser comes; when it fails, the reader goes on from there. -/
def recover (p : Parse α) : Parse (Except SyntaxError α) :=
  fun around ahead =>
    match p around ahead with
    | .ok (a, ahead) => .ok (.ok a, ahead)
    | .error failure => .ok (.error failure.error, failure.ahead)

/-- Reads with the first of two parsers that does not fail. When both do, the failure of the first one
counts. -/
def firstOf (p q : Parse α) : Parse α :=
  fun around ahead =>
    match p around ahead with
    | .ok result => .ok result
    | .error failure =>
      match q around ahead with
      | .ok result => .ok result
      | .error _ => .error failure

/-- The token that is looked at. -/
def token : Parse Token := do
  return (← lookahead).lexeme.token

/-- The token after the one that is looked at. -/
def upcoming : Parse Token := do
  return (Scan.next (← lookahead).lexeme.after false).token

/-- Fails at the token that is looked at. -/
def unexpected : Parse α := do
  failAt (← token).span.start .unexpected

/-- Refuses to go on unless a condition holds. -/
def check (condition : Bool) : Parse Unit :=
  if condition then pure () else unexpected

/-- Moves on to the next token. -/
def advance : Parse Unit :=
  fun _ ahead => .ok ((), ahead.moved)

/-- Moves on to the token after a cursor, as if the token that was looked at ended there. -/
def resume (cursor : Cursor) : Parse Unit :=
  fun _ ahead => .ok ((), ahead.movedTo cursor)

/-- Notes that the file is a module. -/
def enterModule : Parse Unit :=
  fun _ ahead => .ok ((), { ahead with inModule := true })

/-- Whether the code is strict here. -/
def isStrict : Parse Bool := do
  return (← surroundings).strict || (← lookahead).inModule

/-- Whether the token is a punctuator. -/
def sees (mark : Punctuator) : Parse Bool := do
  return (← token).isMark mark

/-- Whether the token is a keyword. -/
def seesWord (keyword : Keyword) : Parse Bool := do
  return (← token).isKeyword keyword

/-- Reads a punctuator if it is there, and tells whether it was. -/
def take (mark : Punctuator) : Parse Bool := do
  if ← sees mark then
    advance
    return true
  else
    return false

/-- Reads a keyword if it is there, and tells whether it was. -/
def takeWord (keyword : Keyword) : Parse Bool := do
  if ← seesWord keyword then
    advance
    return true
  else
    return false

/-- Reads a punctuator that has to be there. -/
def expect (mark : Punctuator) : Parse Unit := do
  check (← take mark)

/-- Reads a keyword that has to be there. -/
def expectWord (keyword : Keyword) : Parse Unit := do
  check (← takeWord keyword)

/-- Where the token that is looked at starts. -/
def here : Parse Nat := do
  return (← token).span.start

/-- The span from an offset to the end of the token read last. -/
def spanFrom (start : Nat) : Parse Span := do
  return ⟨start, (← lookahead).lastStop⟩

/-- A node from an offset to the end of the token read last. -/
def node (start : Nat) (children : List Tree) : Parse Tree := do
  return .node (← spanFrom start) children

/-- Reads one token as a leaf. -/
def leaf : Parse Tree := do
  let start ← here
  advance
  node start []

/-- A node without parts where a part is missing. -/
def absent : Parse Tree := do
  return .node ⟨← here, ← here⟩ []

/-- Whether type syntax may be read. -/
def typed : Parse Bool := do
  return (← surroundings).dialect.typed

/-- Repeats a step until it answers, at most as often as the bound says. -/
def iterateUpTo (step : σ → Parse (σ ⊕ α)) : Nat → σ → Parse α
  | 0, _ => do failAt (← here) .tooDeep
  | bound + 1, state => fun around ahead =>
    match step state around ahead with
    | .error failure => .error failure
    | .ok (.inl state, ahead) => iterateUpTo step bound state around ahead
    | .ok (.inr a, ahead) => .ok (a, ahead)

/-- Repeats a step until it answers. Each step reads a token, so the number of tokens bounds their
number. -/
def iterate (state : σ) (step : σ → Parse (σ ⊕ α)) : Parse α := do
  iterateUpTo step (← surroundings).limit state

/-- Reads items until there is none. -/
def gather (item : Parse (Option α)) : Parse (List α) :=
  iterate [] fun found => do
    match ← item with
    | some a => return .inl (a :: found)
    | none => return .inr found.reverse

/-- Reads items with commas between them up to a closing mark, which is read too. A comma may follow
the last item. -/
def listUntil (close : Punctuator) (item : Parse α) : Parse (List α) :=
  iterate [] fun found => do
    if ← take close then
      return .inr found.reverse
    else
      let a ← item
      if !(← sees close) then expect .comma
      return .inl (a :: found)

/-- Reads one or more items with commas between them. -/
def separated (item : Parse α) : Parse (List α) :=
  iterate [] fun found => do
    let a ← item
    if ← take .comma then return .inl (a :: found) else return .inr (a :: found).reverse

/-- Whether a statement could end here. -/
def seesStatementEnd : Parse Bool := do
  let token ← token
  return token.isMark .semicolon || token.isMark .rbrace || token.isDone || token.afterLine

/-- Reads the end of a statement, a semicolon or nothing where one may be left out, and tells whether
the statement ends here. -/
def takeStatementEnd : Parse Bool := do
  if ← take .semicolon then return true else seesStatementEnd

/-- Reads the end of a statement that has to end here. -/
def statementEnd : Parse Unit := do
  check (← takeStatementEnd)

/-- Runs a test without reading anything. A test that fails answers no. -/
def looking (test : Parse Bool) : Parse Bool :=
  fun around ahead =>
    match test around ahead with
    | .ok (answer, _) => .ok (answer, ahead)
    | .error _ => .ok (false, ahead)

/-- Inside brackets, `in` is an operator again and a colon ends no branch. -/
def bracketed (p : Parse α) : Parse α :=
  within (fun around =>
    { around with
      allowIn := true, inBranch := false, inAttribute := false, allowConditionalType := true }) p

/-- The surroundings of the head of a function: its name, its type parameters and its types. -/
def inHead (isAsync isGenerator : Bool) (p : Parse α) : Parse α :=
  within (fun around => { around with inAsync := isAsync, inGenerator := isGenerator }) p

/-- The surroundings of the body of a function. -/
def inBody (isAsync isGenerator : Bool) (p : Parse α) : Parse α :=
  within (fun around =>
    { around with
      inAsync := isAsync, inGenerator := isGenerator, inParameters := false,
      inStaticBlock := false, inForStart := false }) p

end Parse

/-- What an expression looks like from outside, where that decides what may follow it. -/
inductive Form where
  /-- A single name. -/
  | name
  /-- Anything else that has one place a value can be put in: a member, or what stands in
  parentheses. -/
  | target
  /-- A list or an object, which takes a value apart. -/
  | literal
  /-- A list or an object with a method in it, which cannot take a value apart. -/
  | fixed
  /-- A plain assignment. -/
  | assigned
  /-- An arrow function, which is no operand of an operator. -/
  | arrow
  /-- An operand with an operator before it, which is no base of a power. -/
  | signed
  /-- The result of another operator, to which no value is assigned. -/
  | operation
  | other
deriving DecidableEq, Repr

/-- What reading a goal gives. -/
structure Parsed where
  tree : Tree
  form : Form := .other

/-- The productions that are reached from inside others. -/
inductive Goal where
  /-- A statement; whether it may be a declaration with `let`. -/
  | statement (declarations : Bool)
  /-- A statement of a module. -/
  | moduleItem
  /-- Statements in braces. -/
  | block
  /-- Statements in braces that are the body of a function. -/
  | functionBlock
  /-- Statements of a module in braces. -/
  | moduleBlock
  /-- Expressions with commas between them. -/
  | expression
  /-- An expression without commas. -/
  | assignment
  /-- Operands with operators that bind more tightly than a level. -/
  | binary (level : Nat)
  /-- An operand of a binary operator. -/
  | unary
  /-- An operand without operators: calls and members. -/
  | leftHand
  /-- A `new` expression. -/
  | construction
  /-- A binding target. -/
  | pattern
  /-- A type. -/
  | type
  /-- A markup element. -/
  | element
  /-- A decorator. -/
  | decorator
  /-- A name of a class or of a type that another one builds on. -/
  | heritage
deriving DecidableEq, Repr

/-- A solver for goals. -/
abbrev Solver := Goal → Parse Parsed

/-- Reads a goal for its tree alone. -/
def Solver.tree (solve : Solver) (goal : Goal) : Parse Tree := do
  return (← solve goal).tree

end Grammar

end BraceLint
