import BraceLint.Proofs.Braces
import Mathlib.Data.List.Pairwise

/-! Trees whose spans are nested as their nodes are, and what that says of the statements without
braces: of two of them one lies inside the body of the other, or their bodies are apart. Putting
braces around bodies turns them into blocks, moves all spans and leaves the other statements. -/

namespace BraceLint

/-- The body of a statement is one of its parts. -/
theorem ControlStatement.exists_children_eq (statement : ControlStatement) :
    ∃ before after, statement.children = before ++ statement.body :: after := by
  cases statement with
  | doWhile span test body => exact ⟨[test], [], rfl⟩
  | ifElse span test consequent alternate => exact ⟨[test], alternate.toList, rfl⟩
  | forIn span left source body => exact ⟨[left, source], [], rfl⟩
  | forOf span left source body => exact ⟨[left, source], [], rfl⟩
  | forLoop span first test update body =>
      refine ⟨first.toList ++ (test.toList ++ update.toList), [], ?_⟩
      rw [children, List.append_assoc, List.append_assoc]
      rfl
  | whileLoop span test body => exact ⟨[test], [], rfl⟩

theorem ControlStatement.body_mem_children (statement : ControlStatement) :
    statement.body ∈ statement.children := by
  obtain ⟨before, after, hchildren⟩ := statement.exists_children_eq
  rw [hchildren]
  exact List.mem_append_right _ List.mem_cons_self

namespace Tree

/-- The body of a control statement. -/
def body? : Tree → Option Tree
  | .control statement => some statement.body
  | _ => none

/-- The span of a node is a run of whole characters, those of its children lie inside it and apart
from one another, and a body is not empty and starts later than its statement. -/
structure Nested (text : Text) (tree : Tree) : Prop where
  isIn : tree.span.IsIn text
  inside : ∀ child ∈ tree.children, child.span.Inside tree.span
  apart : tree.children.Pairwise fun left right => left.span.Apart right.span
  body : ∀ body ∈ tree.body?, tree.span.start < body.span.start ∧ body.span.start < body.span.stop

instance (text : Text) (tree : Tree) : Decidable (tree.Nested text) :=
  decidable_of_iff (tree.span.IsIn text ∧ (∀ child ∈ tree.children, child.span.Inside tree.span) ∧
      (tree.children.Pairwise fun left right => left.span.Apart right.span) ∧
      ∀ body ∈ tree.body?, tree.span.start < body.span.start ∧ body.span.start < body.span.stop)
    ⟨fun h => ⟨h.1, h.2.1, h.2.2.1, h.2.2.2⟩, fun h => ⟨h.isIn, h.inside, h.apart, h.body⟩⟩

/-- All nodes of a tree are nested in a text. -/
def WellNested (text : Text) (tree : Tree) : Prop :=
  ∀ node ∈ tree.nodes, node.Nested text

instance (text : Text) (tree : Tree) : Decidable (tree.WellNested text) :=
  inferInstanceAs (Decidable (∀ node ∈ tree.nodes, node.Nested text))

theorem sizeOf_lt_of_mem_parts {statement : ControlStatement} {child : Tree}
    (hchild : child ∈ statement.children) : sizeOf child < sizeOf statement := by
  cases statement with
  | ifElse span test consequent alternate => cases alternate <;> grind [ControlStatement.children]
  | forLoop span first test update body =>
      cases first <;> cases test <;> cases update <;> grind [ControlStatement.children]
  | _ => grind [ControlStatement.children]

theorem sizeOf_lt_of_mem_children {tree child : Tree} (hchild : child ∈ tree.children) :
    sizeOf child < sizeOf tree := by
  cases tree with
  | block span parts =>
      have hlt : sizeOf child < sizeOf parts := List.sizeOf_lt_of_mem hchild
      rw [block.sizeOf_spec]
      omega
  | control statement =>
      have hlt : sizeOf child < sizeOf statement := sizeOf_lt_of_mem_parts hchild
      rw [control.sizeOf_spec]
      omega
  | node span parts =>
      have hlt : sizeOf child < sizeOf parts := List.sizeOf_lt_of_mem hchild
      rw [node.sizeOf_spec]
      omega

/-- Induction from the children of a node to the node. -/
theorem children_induction {motive : Tree → Prop}
    (step : ∀ tree : Tree, (∀ child ∈ tree.children, motive child) → motive tree) (tree : Tree) :
    motive tree :=
  step tree fun child hchild =>
    have := sizeOf_lt_of_mem_children hchild
    children_induction step child
termination_by sizeOf tree

theorem nodesAll_eq_flatMap (trees : List Tree) : nodesAll trees = trees.flatMap nodes := by
  induction trees with
  | nil => rfl
  | cons tree trees ih => rw [nodesAll, ih, List.flatMap_cons]

theorem nodesPart_eq_flatMap (part : Option Tree) : nodesPart part = part.toList.flatMap nodes := by
  cases part with
  | none => rfl
  | some tree => exact (List.append_nil tree.nodes).symm

theorem nodesBelow_eq_flatMap (statement : ControlStatement) :
    statement.nodesBelow = statement.children.flatMap nodes := by
  cases statement <;>
    simp [ControlStatement.nodesBelow, ControlStatement.children, nodesPart_eq_flatMap]

theorem nodes_eq (tree : Tree) : tree.nodes = tree :: tree.children.flatMap nodes := by
  cases tree with
  | block span children => rw [nodes, nodesAll_eq_flatMap, Tree.children]
  | control statement => rw [nodes, nodesBelow_eq_flatMap, Tree.children]
  | node span children => rw [nodes, nodesAll_eq_flatMap, Tree.children]

theorem unbraced_eq (tree : Tree) :
    tree.unbraced = tree.reported ++ tree.children.flatMap unbraced := by
  rw [unbraced, nodes_eq, List.flatMap_cons, List.flatMap_assoc]
  rfl

theorem mem_reported_iff {tree : Tree} {statement : Unbraced} :
    statement ∈ tree.reported ↔ ∃ control : ControlStatement, tree = .control control ∧
      control.body.isBlock = false ∧ statement = ⟨control.kind, control.span, control.body.span⟩ := by
  constructor
  · intro hmem
    cases tree with
    | control control =>
        rw [reported, ControlStatement.reported] at hmem
        split_ifs at hmem with hblock
        · cases hmem
        · exact ⟨control, rfl, by simpa using hblock, by simpa using hmem⟩
    | _ => cases hmem
  · rintro ⟨control, rfl, hblock, rfl⟩
    rw [reported, ControlStatement.reported, hblock]
    exact List.mem_singleton_self _

/-- A node reports one statement at most. -/
theorem reported_eq (tree : Tree) : tree.reported = [] ∨ ∃ statement, tree.reported = [statement] := by
  cases tree with
  | control statement =>
      rw [reported, ControlStatement.reported]
      split_ifs
      · exact Or.inl rfl
      · exact Or.inr ⟨_, rfl⟩
  | _ => exact Or.inl rfl

theorem self_mem_nodes (tree : Tree) : tree ∈ tree.nodes := by
  rw [nodes_eq]
  exact List.mem_cons_self

theorem mem_nodes_of_mem_children {tree child node : Tree} (hchild : child ∈ tree.children)
    (hnode : node ∈ child.nodes) : node ∈ tree.nodes := by
  rw [nodes_eq]
  exact List.mem_cons_of_mem _ (List.mem_flatMap.mpr ⟨child, hchild, hnode⟩)

theorem mem_nodes_trans {tree node below : Tree} (hnode : node ∈ tree.nodes)
    (hbelow : below ∈ node.nodes) : below ∈ tree.nodes := by
  induction tree using children_induction with
  | step tree ih =>
      rw [nodes_eq] at hnode
      rcases List.mem_cons.mp hnode with rfl | hnode
      · exact hbelow
      · obtain ⟨child, hchild, hnode⟩ := List.mem_flatMap.mp hnode
        exact mem_nodes_of_mem_children hchild (ih child hchild hnode)

/-- A reported statement is a control statement of the tree, and its body is a node as well. -/
theorem exists_node_of_mem_unbraced {tree : Tree} {statement : Unbraced}
    (hmem : statement ∈ tree.unbraced) :
    ∃ control : ControlStatement, .control control ∈ tree.nodes ∧ control.body ∈ tree.nodes ∧
      statement = ⟨control.kind, control.span, control.body.span⟩ := by
  obtain ⟨node, hnode, hreported⟩ := List.mem_flatMap.mp hmem
  obtain ⟨control, rfl, -, rfl⟩ := mem_reported_iff.mp hreported
  have hbody : control.body ∈ (Tree.control control).nodes :=
    mem_nodes_of_mem_children control.body_mem_children (self_mem_nodes control.body)
  exact ⟨control, hnode, mem_nodes_trans hnode hbody, rfl⟩

/-- Statements and bodies lie in a text if all nodes do. -/
theorem unbraced_isIn {text : Text} {tree : Tree} (h : ∀ node ∈ tree.nodes, node.span.IsIn text) :
    ∀ statement ∈ tree.unbraced, statement.span.IsIn text ∧ statement.body.IsIn text := by
  intro statement hmem
  obtain ⟨control, hnode, hbody, rfl⟩ := exists_node_of_mem_unbraced hmem
  exact ⟨h _ hnode, h _ hbody⟩

end Tree

/-! ### Statements without braces -/

namespace Unbraced

/-- A statement and its body are runs of whole characters, and the body is a later part of the
statement that is not empty. -/
structure Fits (text : Text) (statement : Unbraced) : Prop where
  span_isIn : statement.span.IsIn text
  body_isIn : statement.body.IsIn text
  inside : statement.body.Inside statement.span
  start_lt : statement.span.start < statement.body.start
  nonempty : statement.body.start < statement.body.stop

/-- The second statement is in the body of the first one. -/
def Within (outer inner : Unbraced) : Prop :=
  inner.span.Inside outer.body

instance (outer inner : Unbraced) : Decidable (outer.Within inner) :=
  inferInstanceAs (Decidable (inner.span.Inside outer.body))

/-- The second statement is in the body of the first one, or their bodies are apart. -/
def Separate (earlier later : Unbraced) : Prop :=
  earlier.Within later ∨ earlier.body.Apart later.body

/-- A statement after its spans have moved. -/
def moved (statement : Unbraced) (bodies : List Span) : Unbraced :=
  ⟨statement.kind, statement.span.moved bodies, statement.body.moved bodies⟩

theorem Fits.moved {text : Text} {bodies : List Span} {statement : Unbraced}
    (hbodies : ∀ body ∈ bodies, body.IsIn text) (h : statement.Fits text) :
    (statement.moved bodies).Fits (text.braced bodies) where
  span_isIn := h.span_isIn.moved hbodies (by
    have hstart := h.start_lt
    have hnonempty := h.nonempty
    have hinside := h.inside.2
    omega)
  body_isIn := h.body_isIn.moved hbodies h.nonempty
  inside := Span.moved_inside bodies h.inside
  start_lt := Span.moved_start_lt bodies h.start_lt
  nonempty := Span.moved_start_lt_stop bodies h.nonempty

theorem Separate.moved {earlier later : Unbraced} (bodies : List Span) (h : earlier.Separate later) :
    (earlier.moved bodies).Separate (later.moved bodies) :=
  Or.imp (Span.moved_inside bodies) (Span.moved_apart bodies) h

end Unbraced

/-- Statements that fit a text, each of which is in the bodies of earlier ones or apart from them. -/
structure Laminar (text : Text) (statements : List Unbraced) : Prop where
  fits : ∀ statement ∈ statements, statement.Fits text
  separate : statements.Pairwise Unbraced.Separate

namespace Laminar

variable {text : Text} {statements : List Unbraced}

theorem sublist {fewer : List Unbraced} (h : Laminar text statements) (hsub : fewer.Sublist statements) :
    Laminar text fewer :=
  ⟨fun statement hmem => h.fits statement (hsub.subset hmem), h.separate.sublist hsub⟩

theorem moved {bodies : List Span} (h : Laminar text statements)
    (hbodies : ∀ body ∈ bodies, body.IsIn text) :
    Laminar (text.braced bodies) (statements.map fun statement => statement.moved bodies) := by
  constructor
  · intro statement hmem
    obtain ⟨original, horiginal, rfl⟩ := List.mem_map.mp hmem
    exact (h.fits original horiginal).moved hbodies
  · rw [List.pairwise_map]
    exact h.separate.imp fun hseparate => hseparate.moved bodies

theorem isIn (h : Laminar text statements) :
    ∀ statement ∈ statements, statement.span.IsIn text ∧ statement.body.IsIn text :=
  fun statement hmem => ⟨(h.fits statement hmem).span_isIn, (h.fits statement hmem).body_isIn⟩

/-- Of two different statements one is in the body of the other, or their bodies are apart. -/
theorem cases_of_ne (h : Laminar text statements) {left right : Unbraced} (hleft : left ∈ statements)
    (hright : right ∈ statements) (hne : left ≠ right) :
    left.Within right ∨ right.Within left ∨ left.body.Apart right.body := by
  have hpairwise : statements.Pairwise fun first second =>
      first.Within second ∨ second.Within first ∨ first.body.Apart second.body :=
    h.separate.imp fun hseparate => hseparate.elim Or.inl fun hapart => Or.inr (Or.inr hapart)
  have hsymm : Std.Symm fun first second : Unbraced =>
      first.Within second ∨ second.Within first ∨ first.body.Apart second.body := by
    constructor
    intro first second hcases
    rcases hcases with hwithin | hwithin | hapart
    · exact Or.inr (Or.inl hwithin)
    · exact Or.inl hwithin
    · exact Or.inr (Or.inr hapart.symm)
  exact hpairwise.forall hleft hright hne

end Laminar

namespace Unbraced

variable {text : Text}

/-- The body of a statement in the body of another one is a later part of that body. -/
theorem Within.body_start_lt {outer inner : Unbraced} (h : outer.Within inner) (hinner : inner.Fits text) :
    outer.body.start < inner.body.start :=
  Nat.lt_of_le_of_lt h.1 hinner.start_lt

theorem Within.body_inside {outer inner : Unbraced} (h : outer.Within inner) (hinner : inner.Fits text) :
    inner.body.Inside outer.body :=
  hinner.inside.trans h

theorem Within.strictlyInside {outer inner : Unbraced} (h : outer.Within inner)
    (hinner : inner.Fits text) : inner.body.StrictlyInside outer.body := by
  refine ⟨h.body_inside hinner, fun heq => ?_⟩
  have hlt := h.body_start_lt hinner
  rw [heq] at hlt
  omega

end Unbraced

namespace Laminar

variable {text : Text} {statements : List Unbraced}

theorem strictlyInside_iff (h : Laminar text statements) {outer inner : Unbraced}
    (houter : outer ∈ statements) (hinner : inner ∈ statements) :
    inner.body.StrictlyInside outer.body ↔ outer.Within inner := by
  constructor
  · rintro ⟨hinside, hne⟩
    have hstatements : outer ≠ inner := by
      rintro rfl
      exact hne rfl
    rcases h.cases_of_ne houter hinner hstatements with hwithin | hwithin | hapart
    · exact hwithin
    · have := hwithin.body_start_lt (h.fits outer houter)
      have := hinside.1
      omega
    · exact absurd hinside (hapart.symm.not_inside (h.fits inner hinner).nonempty)
  · exact fun hwithin => hwithin.strictlyInside (h.fits inner hinner)

theorem nodup_bodies (h : Laminar text statements) : (statements.map Unbraced.body).Nodup := by
  rw [List.Nodup, List.pairwise_map]
  refine List.Pairwise.imp_of_mem (fun {earlier later} hearlier hlater hseparate heq => ?_) h.separate
  rcases hseparate with hwithin | hapart
  · have hlt := hwithin.body_start_lt (h.fits later hlater)
    rw [heq] at hlt
    omega
  · rw [heq] at hapart
    have := (h.fits later hlater).nonempty
    rcases hapart with hle | hle <;> omega

end Laminar

/-! ### Statements of a tree -/

namespace Tree

variable {text : Text}

theorem WellNested.of_mem_children {tree child : Tree} (h : tree.WellNested text)
    (hchild : child ∈ tree.children) : child.WellNested text := by
  exact fun node hnode => h node (mem_nodes_of_mem_children hchild hnode)

theorem WellNested.nested {tree : Tree} (h : tree.WellNested text) : tree.Nested text :=
  h tree (self_mem_nodes tree)

theorem WellNested.span_inside {tree : Tree} (h : tree.WellNested text) :
    ∀ statement ∈ tree.unbraced, statement.span.Inside tree.span := by
  induction tree using children_induction with
  | step tree ih =>
      intro statement hmem
      rw [unbraced_eq] at hmem
      rcases List.mem_append.mp hmem with hown | hrest
      · obtain ⟨control, rfl, -, rfl⟩ := mem_reported_iff.mp hown
        exact ⟨Nat.le_refl _, Nat.le_refl _⟩
      · obtain ⟨child, hchild, hstatement⟩ := List.mem_flatMap.mp hrest
        exact (ih child hchild (h.of_mem_children hchild) statement hstatement).trans
          (h.nested.inside child hchild)

theorem WellNested.fits {tree : Tree} (h : tree.WellNested text) :
    ∀ statement ∈ tree.unbraced, statement.Fits text := by
  intro statement hmem
  obtain ⟨control, hnode, hbody, rfl⟩ := exists_node_of_mem_unbraced hmem
  have hnested := h _ hnode
  obtain ⟨hlater, hnonempty⟩ := hnested.body control.body rfl
  exact ⟨hnested.isIn, (h _ hbody).isIn, hnested.inside _ control.body_mem_children, hlater,
    hnonempty⟩

/-- A node comes before the statements inside it. Those in its body are in its body, and all others
are apart from its body because the children of a node are apart. -/
theorem WellNested.separate {tree : Tree} (h : tree.WellNested text) :
    tree.unbraced.Pairwise Unbraced.Separate := by
  induction tree using children_induction with
  | step tree ih =>
      have hinside : ∀ child ∈ tree.children, ∀ statement ∈ child.unbraced,
          statement.body.Inside child.span := fun child hchild statement hstatement =>
        ((h.of_mem_children hchild).fits statement hstatement).inside.trans
          ((h.of_mem_children hchild).span_inside statement hstatement)
      rw [unbraced_eq, List.pairwise_append, List.pairwise_flatMap]
      refine ⟨?_, ⟨fun child hchild => ih child hchild (h.of_mem_children hchild), ?_⟩, ?_⟩
      · rcases reported_eq tree with hnil | ⟨own, hown⟩
        · rw [hnil]
          exact List.Pairwise.nil
        · rw [hown]
          exact List.pairwise_singleton _ _
      · refine List.Pairwise.imp_of_mem (fun {left right} hleft hright hapart => ?_) h.nested.apart
        intro earlier hearlier later hlater
        exact Or.inr (hapart.mono (hinside left hleft earlier hearlier)
          (hinside right hright later hlater))
      · intro own hown later hlater
        obtain ⟨control, rfl, -, rfl⟩ := mem_reported_iff.mp hown
        obtain ⟨child, hchild, hstatement⟩ := List.mem_flatMap.mp hlater
        obtain ⟨before, after, hchildren⟩ := control.exists_children_eq
        have hapart := h.nested.apart
        rw [Tree.children, hchildren, List.pairwise_append, List.pairwise_cons] at hapart
        obtain ⟨-, ⟨hafter, -⟩, hbefore⟩ := hapart
        have hmem := hchild
        rw [Tree.children, hchildren] at hmem
        rcases List.mem_append.mp hmem with hmem | hmem
        · have hchildBody := hbefore child hmem control.body List.mem_cons_self
          exact Or.inr (hchildBody.symm.mono ⟨Nat.le_refl _, Nat.le_refl _⟩
            (hinside child hchild later hstatement))
        · rcases List.mem_cons.mp hmem with rfl | hmem
          · exact Or.inl ((h.of_mem_children hchild).span_inside later hstatement)
          · exact Or.inr ((hafter child hmem).mono ⟨Nat.le_refl _, Nat.le_refl _⟩
              (hinside child hchild later hstatement))

theorem WellNested.laminar {tree : Tree} (h : tree.WellNested text) : Laminar text tree.unbraced :=
  ⟨h.fits, h.separate⟩

end Tree

/-! ### Trees with braces -/

/-- The body of a statement after braces have been put around bodies: it is in a block if it is one of
the bodies, and not a block already. What has become of the body itself is given. -/
def Tree.inBlock (bodies : List Span) (body moved : Tree) : Tree :=
  if body.isBlock = false ∧ body.span ∈ bodies then
    let inner := body.span.moved bodies
    .block ⟨inner.start - 2, inner.stop + 1⟩ [moved]
  else moved

mutual

/-- A tree after braces have been put around bodies: every node has moved, and each of the bodies has
become a block that holds it. -/
def Tree.braced (bodies : List Span) : Tree → Tree
  | .block span children => .block (span.moved bodies) (Tree.bracedAll bodies children)
  | .control statement => .control (statement.braced bodies)
  | .node span children => .node (span.moved bodies) (Tree.bracedAll bodies children)

/-- The same for a control statement. -/
def ControlStatement.braced (bodies : List Span) : ControlStatement → ControlStatement
  | .doWhile span test body =>
    .doWhile (span.moved bodies) (test.braced bodies) (body.inBlock bodies (body.braced bodies))
  | .ifElse span test consequent alternate =>
    .ifElse (span.moved bodies) (test.braced bodies)
      (consequent.inBlock bodies (consequent.braced bodies)) (Tree.bracedPart bodies alternate)
  | .forIn span left source body =>
    .forIn (span.moved bodies) (left.braced bodies) (source.braced bodies)
      (body.inBlock bodies (body.braced bodies))
  | .forOf span left source body =>
    .forOf (span.moved bodies) (left.braced bodies) (source.braced bodies)
      (body.inBlock bodies (body.braced bodies))
  | .forLoop span first test update body =>
    .forLoop (span.moved bodies) (Tree.bracedPart bodies first) (Tree.bracedPart bodies test)
      (Tree.bracedPart bodies update) (body.inBlock bodies (body.braced bodies))
  | .whileLoop span test body =>
    .whileLoop (span.moved bodies) (test.braced bodies) (body.inBlock bodies (body.braced bodies))

/-- The same for a part that may be missing. -/
def Tree.bracedPart (bodies : List Span) : Option Tree → Option Tree
  | none => none
  | some tree => some (tree.braced bodies)

/-- The same for each tree of a list. -/
def Tree.bracedAll (bodies : List Span) : List Tree → List Tree
  | [] => []
  | tree :: trees => tree.braced bodies :: Tree.bracedAll bodies trees

end

namespace ControlStatement

variable (bodies : List Span) (statement : ControlStatement)

theorem kind_braced : (statement.braced bodies).kind = statement.kind := by
  cases statement <;> rfl

theorem span_braced : (statement.braced bodies).span = statement.span.moved bodies := by
  cases statement <;> rfl

theorem body_braced : (statement.braced bodies).body =
    statement.body.inBlock bodies (statement.body.braced bodies) := by
  cases statement <;> rfl

end ControlStatement

namespace Tree

variable (bodies : List Span)

theorem span_braced (tree : Tree) : (tree.braced bodies).span = tree.span.moved bodies := by
  cases tree with
  | control statement => exact statement.span_braced bodies
  | _ => rfl

theorem isBlock_block (span : Span) (children : List Tree) : (block span children).isBlock = true := rfl

theorem isBlock_braced (tree : Tree) : (tree.braced bodies).isBlock = tree.isBlock := by
  cases tree <;> rfl

theorem bracedAll_eq_map (trees : List Tree) : bracedAll bodies trees = trees.map (braced bodies) := by
  induction trees with
  | nil => rfl
  | cons tree trees ih => rw [bracedAll, ih, List.map_cons]

end Tree

/-- The statements that are left without braces when bodies have got them. -/
def leftOver (statements : List Unbraced) (bodies : List Span) : List Unbraced :=
  statements.filter fun statement => statement.body ∉ bodies

/-- The same statements where the braces have moved them. -/
def remaining (statements : List Unbraced) (bodies : List Span) : List Unbraced :=
  (leftOver statements bodies).map fun statement => statement.moved bodies

theorem remaining_append (first second : List Unbraced) (bodies : List Span) :
    remaining (first ++ second) bodies = remaining first bodies ++ remaining second bodies := by
  rw [remaining, leftOver, List.filter_append, List.map_append]
  rfl

theorem remaining_flatMap (trees : List Tree) (statements : Tree → List Unbraced) (bodies : List Span) :
    remaining (trees.flatMap statements) bodies =
      trees.flatMap fun tree => remaining (statements tree) bodies := by
  induction trees with
  | nil => rfl
  | cons tree trees ih => rw [List.flatMap_cons, remaining_append, ih, List.flatMap_cons]

namespace Tree

variable (bodies : List Span)

/-- A block reports nothing, so what is in it stays as it is. -/
theorem unbraced_inBlock (body moved : Tree) : (body.inBlock bodies moved).unbraced = moved.unbraced := by
  rw [inBlock]
  split_ifs
  · rw [unbraced_eq, Tree.children, List.flatMap_singleton]
    rfl
  · rfl

theorem reported_braced (tree : Tree) :
    (tree.braced bodies).reported = remaining tree.reported bodies := by
  cases tree with
  | control statement =>
      rw [braced, reported, reported, ControlStatement.reported, ControlStatement.reported,
        statement.kind_braced, statement.span_braced, statement.body_braced]
      cases hblock : statement.body.isBlock with
      | true => simp [inBlock, hblock, isBlock_braced, remaining, leftOver]
      | false =>
          by_cases hmem : statement.body.span ∈ bodies
          · simp [inBlock, hblock, hmem, isBlock_block, remaining, leftOver]
          · simp [inBlock, hblock, hmem, isBlock_braced, span_braced, remaining, leftOver,
              Unbraced.moved]
  | _ => rfl

theorem flatMap_children_braced (tree : Tree) :
    (tree.braced bodies).children.flatMap unbraced =
      tree.children.flatMap fun child => (child.braced bodies).unbraced := by
  cases tree with
  | control statement =>
      cases statement with
      | ifElse span test consequent alternate =>
          cases alternate <;>
            simp [braced, bracedPart, ControlStatement.braced, Tree.children,
              ControlStatement.children, unbraced_inBlock]
      | forLoop span first test update body =>
          cases first <;> cases test <;> cases update <;>
            simp [braced, bracedPart, ControlStatement.braced, Tree.children,
              ControlStatement.children, unbraced_inBlock]
      | _ =>
          simp [braced, ControlStatement.braced, Tree.children, ControlStatement.children,
            unbraced_inBlock]
  | _ => rw [braced, Tree.children, Tree.children, bracedAll_eq_map, List.flatMap_map]

/-- Braces around bodies silence exactly their statements. -/
theorem unbraced_braced (tree : Tree) :
    (tree.braced bodies).unbraced = remaining tree.unbraced bodies := by
  induction tree using children_induction with
  | step tree ih =>
      rw [unbraced_eq, reported_braced, flatMap_children_braced, unbraced_eq tree, remaining_append,
        remaining_flatMap]
      exact congrArg _ (List.flatMap_congr fun child hchild => ih child hchild)

end Tree

/-! ### A loop around an `if` -/

namespace LoopAroundIf

/-- A loop whose body is an `if`, both without braces. -/
def text : Text := "while (a) if (b) c();".toList

/-- The tree of the loop. -/
def tree : Tree :=
  .node ⟨0, 21⟩ [.control (.whileLoop ⟨0, 21⟩ (.node ⟨7, 8⟩ [])
    (.control (.ifElse ⟨10, 21⟩ (.node ⟨14, 15⟩ [])
      (.node ⟨17, 21⟩ [.node ⟨17, 20⟩ [.node ⟨17, 18⟩ []]]) none)))]

/-- The body of the loop, and the body of the `if` in it. -/
example : tree.unbraced = [⟨.whileLoop, ⟨0, 21⟩, ⟨10, 21⟩⟩, ⟨.ifElse, ⟨10, 21⟩, ⟨17, 21⟩⟩] := by decide

example : (tree.braced [⟨10, 21⟩]).unbraced = [⟨.ifElse, ⟨12, 23⟩, ⟨19, 23⟩⟩] := by decide

end LoopAroundIf

end BraceLint
