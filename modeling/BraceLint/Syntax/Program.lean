import BraceLint.Syntax.Grammar.Module

/-!
Programs. The productions of the grammar are tied together by a solver with a bound on the depth of
the goals inside each other. A goal reads a token after a handful of goals inside it at most, so a
multiple of the length of the text is depth enough.
-/

namespace BraceLint

namespace Grammar

open Parse

/-- The production for a goal, over a solver for the goals inside it. -/
def production (solve : Solver) : Solver
  | .statement declarations => do return { tree := ← statement solve declarations }
  | .moduleItem => do return { tree := ← moduleItem solve }
  | .block => do return { tree := ← block solve (.statement true) }
  | .functionBlock => do return { tree := ← functionBlock solve }
  | .moduleBlock => do return { tree := ← block solve .moduleItem }
  | .expression => expression solve
  | .assignment => assignment solve
  | .binary level => binary solve level
  | .unary => unary solve
  | .leftHand => leftHand solve
  | .construction => construction solve
  | .pattern => do return { tree := ← pattern solve }
  | .type => do return { tree := ← type solve }
  | .element => do return { tree := ← element solve }
  | .decorator => do return { tree := ← decorator solve }
  | .heritage => do return { tree := ← ancestor solve }

/-- The solver with a bound on the depth of goals. -/
def solveUpTo : Nat → Solver
  | 0 => fun _ => do failAt (← here) .tooDeep
  | depth + 1 => production (solveUpTo depth)

/-- Reads a whole program. -/
def program (solve : Solver) : Parse Tree := do
  let isStrict ← seesStrictDirective
  let items ← within (fun around => { around with strict := around.strict || isStrict }) (gather do
    if (← token).isDone then return none else return some (← solve.tree .moduleItem))
  node 0 items

end Grammar

/-- The tree of a program in a dialect. -/
def parseProgram (dialect : Dialect) (text : Text) : Except SyntaxError Tree :=
  let length := text.length
  let around : Grammar.Surroundings :=
    { dialect := dialect, limit := length + 2, ambient := dialect.declaresOnly }
  let ahead : Grammar.Lookahead :=
    { lexeme := Scan.next (Scan.skipInterpreterLine text) true
      lastStop := 0
      inModule := dialect.isModule }
  match Grammar.program (Grammar.solveUpTo (16 * length + 16)) around ahead with
  | .ok (tree, _) => .ok tree
  | .error failure => .error failure.error

end BraceLint
