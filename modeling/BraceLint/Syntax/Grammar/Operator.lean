import BraceLint.Syntax.Grammar.Type

/-!
Binary operators and assignments. An operator belongs to a level, and binds more tightly than those of
the levels before its own. A greater-than sign is the start of several operators, which the reader of
tokens leaves to the grammar.
-/

namespace BraceLint.Grammar

open Parse

/-! ### Assignments -/

/-- Whether a value can be assigned to an expression that looks like this. A sign that combines the
two sides needs a single place on the left. -/
def Form.isAssignable (form : Form) (combines : Bool) : Bool :=
  form == .name || form == .target || (form == .literal && !combines)

/-- The assignment sign that stands here: whether it combines the two sides, and what comes after
it. -/
def assignmentSign? : Parse (Option (Bool × Cursor)) := do
  let lexeme := (← lookahead).lexeme
  match lexeme.token.mark? with
  | some .equal => return some (false, lexeme.after)
  | some .compound | some .slashEqual => return some (true, lexeme.after)
  | some .greater =>
    match Scan.greater lexeme.here.rest with
    | (.assign, length) => return some (true, lexeme.here.skipAscii length)
    | _ => return none
  | _ => return none

/-- Reads the value that is assigned to an expression, if an assignment sign follows. Nothing is
assigned to the result of an operator. -/
def assigned (solve : Solver) (start : Nat) (left : Parsed) : Parse Parsed := do
  if left.form == .operation || left.form == .signed then return left
  else
    match ← assignmentSign? with
    | none => return left
    | some (combines, after) =>
      check (left.form.isAssignable combines)
      resume after
      let right ← solve.tree .assignment
      return ⟨← node start [left.tree, right], if combines then .other else .assigned⟩

/-! ### Binary operators -/

/-- The levels of the binary operators, the loosest first. -/
def markLevel? : Punctuator → Option Nat
  | .coalesce => some 1
  | .orOr => some 2
  | .andAnd => some 3
  | .pipe => some 4
  | .caret => some 5
  | .ampersand => some 6
  | .equality => some 7
  | .less | .lessEqual => some 8
  | .lessLess => some 9
  | .plus | .minus => some 10
  | .star | .slash | .percent => some 11
  | .starStar => some 12
  | _ => none

/-- The level of comparisons, of `in` and of type assertions with `as`. -/
def comparisonLevel : Nat := 8

/-- The level of shifts. -/
def shiftLevel : Nat := 9

/-- The level of powers, which associate to the right. -/
def powerLevel : Nat := 12

/-- The binary operator that stands here: its level, and what comes after it. -/
def operator? : Parse (Option (Nat × Cursor)) := do
  let lexeme := (← lookahead).lexeme
  match lexeme.token.kind with
  | .punctuator .greater =>
    match Scan.greater lexeme.here.rest with
    | (.compare, length) => return some (comparisonLevel, lexeme.here.skipAscii length)
    | (.shift, length) => return some (shiftLevel, lexeme.here.skipAscii length)
    | (.assign, _) => return none
  | .punctuator mark => return (markLevel? mark).map fun level => (level, lexeme.after)
  | .word (some .instanceof) _ => return some (comparisonLevel, lexeme.after)
  | .word (some .in_) _ =>
    return if (← surroundings).allowIn then some (comparisonLevel, lexeme.after) else none
  | _ => return none

/-- Whether a binary operator that is no word stands here. -/
def seesSign : Parse Bool := do
  return (← token).mark?.isSome && (← operator?).isSome

/-- Whether a word asserts that the expression before it has the type after it. -/
def isAssertionWord (token : Token) : Bool :=
  token.isKeyword .as || token.isKeyword .satisfies

/-- Reads the type after a word that asserts it. The word `as` also takes the word `const`. -/
def assertedType (solve : Solver) : Parse Tree := do
  let first ← token
  advance
  if first.isKeyword .as && (← seesWord .const) then leaf else solve.tree .type

/-- Reads operators that bind more tightly than a level, with their right operands. -/
def operators (solve : Solver) (start level : Nat) (first : Parsed) : Parse Parsed :=
  iterate first fun left => do
    let token ← token
    if (← typed) && level < comparisonLevel && !token.afterLine && isAssertionWord token then
      let type ← assertedType solve
      return .inl ⟨← node start [left.tree, type], .target⟩
    else
      match ← operator? with
      | none => return .inr left
      | some (found, after) =>
        if found ≤ level then return .inr left
        else
          resume after
          check (!(found == powerLevel && left.form == .signed))
          let right ← solve.tree (.binary (if found == powerLevel then found - 1 else found))
          return .inl ⟨← node start [left.tree, right], .operation⟩

end BraceLint.Grammar
