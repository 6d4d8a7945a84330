import BraceLint.Syntax.Grammar.Type

/-!
Functions from their parameters on. In field order the type parameters and the return type of a
function come after its body.
-/

namespace BraceLint.Grammar

open Parse

/-- A function from its type parameters on: where only a declaration stands it has no body. -/
structure FunctionTail where
  parameters : List Tree
  body : List Tree
  generics : List Tree
  result : List Tree

namespace FunctionTail

/-- The parts of a function in field order, given the decorators before it. -/
def parts (tail : FunctionTail) (marks : List Tree) : List Tree :=
  tail.parameters ++ marks ++ tail.body ++ tail.generics ++ tail.result

end FunctionTail

/-- Reads the body of a function. In a typed dialect it may be left out where a statement could end. -/
def functionBody (solve : Solver) (isAsync isGenerator : Bool) : Parse (List Tree) := do
  if ← (typed <&&> (do return !(← sees .lbrace)) <&&> takeStatementEnd) then return []
  else return [← bracketed (inBody isAsync isGenerator (solve.tree .functionBlock))]

/-- Reads a function from its type parameters on, its parameters being read by the given parser. -/
def functionTailOf (solve : Solver) (isAsync isGenerator : Bool) (item : Parse Tree) :
    Parse FunctionTail :=
  inHead isAsync isGenerator do
    let generics ← typeParameters? solve
    expect .lparen
    let parameters ← within ({ · with inParameters := true }) (bracketed (listUntil .rparen item))
    let result ← returnMark? solve
    let body ← functionBody solve isAsync isGenerator
    return ⟨parameters, body, generics, result⟩

/-- Reads a function from its type parameters on. -/
def functionTail (solve : Solver) (isAsync isGenerator : Bool) : Parse FunctionTail :=
  functionTailOf solve isAsync isGenerator (do return (← parameter solve).tree)

/-- How a function is used: a declaration has a name, a default of a module may have one, and an
expression has a body. -/
inductive FunctionUse where
  | declaration
  | default
  | expression
deriving DecidableEq, Repr

/-- Reads the name of a function. The name of an expression belongs to the inside of the function. -/
def functionName (use : FunctionUse) (isAsync isGenerator : Bool) : Parse (List Tree) := do
  match use with
  | .declaration => return [← bindingName false]
  | .default => optional
  | .expression => inHead isAsync isGenerator optional
where
  /-- A name, if there is one. -/
  optional : Parse (List Tree) := do
    if ← (seesVariable <||> (typed <&&> seesWord .this)) then return [← bindingName false]
    else return []

/-- Reads a function after the word `async`. -/
def function (solve : Solver) (start : Nat) (isAsync : Bool) (use : FunctionUse)
    (marks : List Tree) : Parse Tree := do
  expectWord .function
  let isGenerator ← take .star
  let name ← functionName use isAsync isGenerator
  let tail ← functionTail solve isAsync isGenerator
  check (use != .expression || !tail.body.isEmpty)
  node start (name ++ tail.parts marks)

/-- Reads the body of an arrow function after its arrow. -/
def arrowBody (solve : Solver) (isAsync : Bool) : Parse Tree := do
  if ← sees .lbrace then bracketed (inBody isAsync false (solve.tree .functionBlock))
  else inBody isAsync false (solve.tree .assignment)

end BraceLint.Grammar
