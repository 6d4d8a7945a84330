import BraceLint.Text.Basic

/-!
Program trees. A tree keeps what the lint rules look at: the span of every node, its children in
field order, which nodes are blocks, and the parts of control statements. Field order is the order in
which a node lists its parts. It is the order of the source with few exceptions: the test of a `do`
statement comes before its body, and the superclass of a class comes after its members.
-/

namespace BraceLint

/-- The kinds of statements that govern a body. -/
inductive Control where
  | doWhile
  | ifElse
  | forIn
  | forOf
  | forLoop
  | whileLoop
deriving DecidableEq, Repr

namespace Control

/-- The statement as messages call it. -/
def wording : Control → String
  | .doWhile => "do-while"
  | .ifElse => "if"
  | .forIn => "for-in"
  | .forOf => "for-of"
  | .forLoop => "for"
  | .whileLoop => "while"

/-- The identifier of the statement kind. -/
def name : Control → String
  | .doWhile => "DoWhile"
  | .ifElse => "If"
  | .forIn => "ForIn"
  | .forOf => "ForOf"
  | .forLoop => "For"
  | .whileLoop => "While"

/-- All statement kinds. -/
def all : List Control :=
  [.doWhile, .ifElse, .forIn, .forOf, .forLoop, .whileLoop]

/-- The statement kind with the given identifier. -/
def ofName? (name : String) : Option Control :=
  all.find? fun kind => kind.name == name

end Control

mutual

/-- A program tree. -/
inductive Tree where
  | block (span : Span) (children : List Tree)
  | control (statement : ControlStatement)
  | node (span : Span) (children : List Tree)

/-- A statement that governs a body, with its parts. -/
inductive ControlStatement where
  | doWhile (span : Span) (test body : Tree)
  | ifElse (span : Span) (test consequent : Tree) (alternate : Option Tree)
  | forIn (span : Span) (left source body : Tree)
  | forOf (span : Span) (left source body : Tree)
  | forLoop (span : Span) (first test update : Option Tree) (body : Tree)
  | whileLoop (span : Span) (test body : Tree)

end

namespace ControlStatement

/-- The kind of a statement. -/
def kind : ControlStatement → Control
  | .doWhile _ _ _ => .doWhile
  | .ifElse _ _ _ _ => .ifElse
  | .forIn _ _ _ _ => .forIn
  | .forOf _ _ _ _ => .forOf
  | .forLoop _ _ _ _ _ => .forLoop
  | .whileLoop _ _ _ => .whileLoop

/-- The bytes a statement covers. -/
def span : ControlStatement → Span
  | .doWhile span _ _ => span
  | .ifElse span _ _ _ => span
  | .forIn span _ _ _ => span
  | .forOf span _ _ _ => span
  | .forLoop span _ _ _ _ => span
  | .whileLoop span _ _ => span

/-- The statement that is governed. For an `if` it is the consequent, never the alternate. -/
def body : ControlStatement → Tree
  | .doWhile _ _ body => body
  | .ifElse _ _ consequent _ => consequent
  | .forIn _ _ _ body => body
  | .forOf _ _ _ body => body
  | .forLoop _ _ _ _ body => body
  | .whileLoop _ _ body => body

/-- The parts in field order. -/
def children : ControlStatement → List Tree
  | .doWhile _ test body => [test, body]
  | .ifElse _ test consequent alternate => test :: consequent :: alternate.toList
  | .forIn _ left source body => [left, source, body]
  | .forOf _ left source body => [left, source, body]
  | .forLoop _ first test update body =>
    first.toList ++ (test.toList ++ (update.toList ++ [body]))
  | .whileLoop _ test body => [test, body]

end ControlStatement

namespace Tree

/-- The bytes a node covers. -/
def span : Tree → Span
  | .block span _ => span
  | .control statement => statement.span
  | .node span _ => span

/-- The children in field order. -/
def children : Tree → List Tree
  | .block _ children => children
  | .control statement => statement.children
  | .node _ children => children

/-- Whether a node is a block. -/
def isBlock : Tree → Bool
  | .block _ _ => true
  | _ => false

end Tree

/-! ### Equality

Trees hold lists of trees and parts that may be missing, so equality is decided along all of these at
once. -/

mutual

/-- Whether two trees are the same. -/
def Tree.same : Tree → Tree → Bool
  | .block span children, .block span' children' => span == span' && Tree.sameAll children children'
  | .control statement, .control statement' => statement.same statement'
  | .node span children, .node span' children' => span == span' && Tree.sameAll children children'
  | _, _ => false

/-- Whether two statements are the same. -/
def ControlStatement.same : ControlStatement → ControlStatement → Bool
  | .doWhile span test body, .doWhile span' test' body' =>
    span == span' && test.same test' && body.same body'
  | .ifElse span test consequent alternate, .ifElse span' test' consequent' alternate' =>
    span == span' && test.same test' && consequent.same consequent' && Tree.samePart alternate alternate'
  | .forIn span left source body, .forIn span' left' source' body' =>
    span == span' && left.same left' && source.same source' && body.same body'
  | .forOf span left source body, .forOf span' left' source' body' =>
    span == span' && left.same left' && source.same source' && body.same body'
  | .forLoop span first test update body, .forLoop span' first' test' update' body' =>
    span == span' && Tree.samePart first first' && Tree.samePart test test' &&
      Tree.samePart update update' && body.same body'
  | .whileLoop span test body, .whileLoop span' test' body' =>
    span == span' && test.same test' && body.same body'
  | _, _ => false

/-- The same for parts that may be missing. -/
def Tree.samePart : Option Tree → Option Tree → Bool
  | none, none => true
  | some tree, some tree' => tree.same tree'
  | _, _ => false

/-- The same for lists of trees. -/
def Tree.sameAll : List Tree → List Tree → Bool
  | [], [] => true
  | tree :: trees, tree' :: trees' => tree.same tree' && Tree.sameAll trees trees'
  | _, _ => false

end

mutual

theorem Tree.same_iff (left right : Tree) : left.same right = true ↔ left = right := by
  cases left <;> cases right <;>
    simp [Tree.same, ControlStatement.same_iff, Tree.sameAll_iff]
termination_by structural left

theorem ControlStatement.same_iff (left right : ControlStatement) :
    left.same right = true ↔ left = right := by
  cases left <;> cases right <;>
    simp [ControlStatement.same, Tree.same_iff, Tree.samePart_iff, and_assoc]
termination_by structural left

theorem Tree.samePart_iff (left right : Option Tree) : Tree.samePart left right = true ↔ left = right := by
  cases left <;> cases right <;> simp [Tree.samePart, Tree.same_iff]
termination_by structural left

theorem Tree.sameAll_iff (left right : List Tree) : Tree.sameAll left right = true ↔ left = right := by
  cases left <;> cases right <;> simp [Tree.sameAll, Tree.same_iff, Tree.sameAll_iff]
termination_by structural left

end

instance : DecidableEq Tree :=
  fun left right => decidable_of_iff _ (Tree.same_iff left right)

/-! ### What is reported -/

mutual

/-- All nodes of a tree, a node before those inside it and children in field order. -/
def Tree.nodes : Tree → List Tree
  | .block span children => .block span children :: Tree.nodesAll children
  | .control statement => .control statement :: statement.nodesBelow
  | .node span children => .node span children :: Tree.nodesAll children

/-- The nodes of the parts of a statement. -/
def ControlStatement.nodesBelow : ControlStatement → List Tree
  | .doWhile _ test body => test.nodes ++ body.nodes
  | .ifElse _ test consequent alternate =>
    test.nodes ++ (consequent.nodes ++ Tree.nodesPart alternate)
  | .forIn _ left source body => left.nodes ++ (source.nodes ++ body.nodes)
  | .forOf _ left source body => left.nodes ++ (source.nodes ++ body.nodes)
  | .forLoop _ first test update body =>
    Tree.nodesPart first ++ (Tree.nodesPart test ++ (Tree.nodesPart update ++ body.nodes))
  | .whileLoop _ test body => test.nodes ++ body.nodes

/-- The nodes of a part that may be missing. -/
def Tree.nodesPart : Option Tree → List Tree
  | none => []
  | some tree => tree.nodes

/-- The nodes of trees, one tree after the other. -/
def Tree.nodesAll : List Tree → List Tree
  | [] => []
  | tree :: trees => tree.nodes ++ Tree.nodesAll trees

end

/-- A control statement whose body is not a block: its kind, its span and the span of its body. -/
structure Unbraced where
  kind : Control
  span : Span
  body : Span
deriving DecidableEq, Repr

/-- What a control statement reports: itself, unless its body is a block. -/
def ControlStatement.reported (statement : ControlStatement) : List Unbraced :=
  if statement.body.isBlock then [] else [⟨statement.kind, statement.span, statement.body.span⟩]

/-- What a node reports by itself. -/
def Tree.reported : Tree → List Unbraced
  | .control statement => statement.reported
  | _ => []

/-- The control statements of a tree whose body is not a block, in the order in which the nodes of the
tree are visited. -/
def Tree.unbraced (tree : Tree) : List Unbraced :=
  tree.nodes.flatMap Tree.reported

end BraceLint
