import BraceLint.Proofs.Findings

/-! Positions in a tree as paths of child indexes from the root. Walking a tree with a node before
those inside it and children in order meets the positions in lexicographic order, so the diagnostics of
the rule stand for the positions of the statements without braces, each for one of them. -/

namespace BraceLint

namespace Tree

/-- The node at a path of child indexes. -/
def subtreeAt : Tree → List Nat → Option Tree
  | tree, [] => some tree
  | tree, index :: path => tree.children[index]?.bind fun child => child.subtreeAt path

/-- A node is a statement of a kind that governs a body. An `if` governs its consequent, never its
alternate. -/
inductive Governs : Tree → Control → Tree → Prop where
  | doWhile (span : Span) (test body : Tree) : Governs (.control (.doWhile span test body)) .doWhile body
  | ifElse (span : Span) (test consequent : Tree) (alternate : Option Tree) :
    Governs (.control (.ifElse span test consequent alternate)) .ifElse consequent
  | forIn (span : Span) (left source body : Tree) :
    Governs (.control (.forIn span left source body)) .forIn body
  | forOf (span : Span) (left source body : Tree) :
    Governs (.control (.forOf span left source body)) .forOf body
  | forLoop (span : Span) (first test update : Option Tree) (body : Tree) :
    Governs (.control (.forLoop span first test update body)) .forLoop body
  | whileLoop (span : Span) (test body : Tree) :
    Governs (.control (.whileLoop span test body)) .whileLoop body

theorem governs_iff {tree : Tree} {kind : Control} {body : Tree} :
    tree.Governs kind body ↔
      ∃ control : ControlStatement, tree = .control control ∧ control.kind = kind ∧
        control.body = body := by
  constructor
  · intro h
    cases h with
    | _ => exact ⟨_, rfl, rfl, rfl⟩
  · rintro ⟨control, rfl, rfl, rfl⟩
    cases control with
    | doWhile span test body => exact Governs.doWhile span test body
    | ifElse span test consequent alternate => exact Governs.ifElse span test consequent alternate
    | forIn span left source body => exact Governs.forIn span left source body
    | forOf span left source body => exact Governs.forOf span left source body
    | forLoop span first test update body => exact Governs.forLoop span first test update body
    | whileLoop span test body => exact Governs.whileLoop span test body

/-- At a path there is a control statement whose body is not a block. -/
def HasUnbraced (tree : Tree) (path : List Nat) (statement : Unbraced) : Prop :=
  ∃ node body, tree.subtreeAt path = some node ∧ node.Governs statement.kind body ∧
    (∀ span children, body ≠ .block span children) ∧
    statement.span = node.span ∧ statement.body = body.span

theorem isBlock_eq_false_iff {tree : Tree} :
    tree.isBlock = false ↔ ∀ span children, tree ≠ .block span children := by
  cases tree with
  | block span children =>
      constructor
      · exact fun hfalse => nomatch hfalse
      · exact fun hne => absurd rfl (hne span children)
  | _ => exact ⟨fun _ _ _ hblock => (nomatch hblock), fun _ => rfl⟩

theorem hasUnbraced_nil {tree : Tree} {statement : Unbraced} :
    tree.HasUnbraced [] statement ↔ statement ∈ tree.reported := by
  rw [mem_reported_iff]
  constructor
  · rintro ⟨node, body, htree, hgoverns, hblock, hspan, hbody⟩
    cases htree
    obtain ⟨control, rfl, hkind, rfl⟩ := governs_iff.mp hgoverns
    refine ⟨control, rfl, isBlock_eq_false_iff.mpr hblock, ?_⟩
    rw [hkind, ← hbody]
    exact congrArg (fun span => Unbraced.mk statement.kind span statement.body) hspan
  · rintro ⟨control, rfl, hblock, rfl⟩
    exact ⟨_, control.body, rfl, governs_iff.mpr ⟨control, rfl, rfl, rfl⟩,
      isBlock_eq_false_iff.mp hblock, rfl, rfl⟩

theorem hasUnbraced_cons {tree : Tree} {index : Nat} {path : List Nat} {statement : Unbraced} :
    tree.HasUnbraced (index :: path) statement ↔
      ∃ child, tree.children[index]? = some child ∧ child.HasUnbraced path statement := by
  constructor
  · rintro ⟨node, body, htree, hrest⟩
    rw [subtreeAt, Option.bind_eq_some_iff] at htree
    obtain ⟨child, hchild, hsubtree⟩ := htree
    exact ⟨child, hchild, node, body, hsubtree, hrest⟩
  · rintro ⟨child, hchild, node, body, hsubtree, hrest⟩
    exact ⟨node, body, by rw [subtreeAt, hchild, Option.bind_some, hsubtree], hrest⟩

end Tree

/-- Statements are listed in the order of their paths: the paths of all that hold are in strict
lexicographic order, and each goes with the statement in its place. -/
def ListsInOrder (holds : List Nat → Unbraced → Prop) (statements : List Unbraced) : Prop :=
  ∃ paths : List (List Nat), paths.Pairwise (· < ·) ∧
    (∀ path, path ∈ paths ↔ ∃ statement, holds path statement) ∧
    List.Forall₂ holds paths statements

namespace ListsInOrder

variable {holds holds' : List Nat → Unbraced → Prop} {statements statements' : List Unbraced}

theorem congr (h : ListsInOrder holds statements)
    (hiff : ∀ path statement, holds path statement ↔ holds' path statement) :
    ListsInOrder holds' statements := by
  have heq : holds = holds' := funext fun path => funext fun statement => propext (hiff path statement)
  rwa [← heq]

theorem nil (hnone : ∀ path statement, ¬holds path statement) : ListsInOrder holds [] :=
  ⟨[], List.Pairwise.nil, fun path => by simpa using hnone path, List.Forall₂.nil⟩

theorem append (h : ListsInOrder holds statements) (h' : ListsInOrder holds' statements')
    (hlt : ∀ path statement path' statement', holds path statement → holds' path' statement' →
      path < path') :
    ListsInOrder (fun path statement => holds path statement ∨ holds' path statement)
      (statements ++ statements') := by
  obtain ⟨paths, hsorted, hmem, hforall⟩ := h
  obtain ⟨paths', hsorted', hmem', hforall'⟩ := h'
  refine ⟨paths ++ paths', ?_, ?_, ?_⟩
  · rw [List.pairwise_append]
    refine ⟨hsorted, hsorted', fun path hpath path' hpath' => ?_⟩
    obtain ⟨statement, hstatement⟩ := (hmem path).mp hpath
    obtain ⟨statement', hstatement'⟩ := (hmem' path').mp hpath'
    exact hlt path statement path' statement' hstatement hstatement'
  · intro path
    rw [List.mem_append, hmem, hmem', ← exists_or]
  · exact List.rel_append (hforall.imp fun _ _ => Or.inl) (hforall'.imp fun _ _ => Or.inr)

/-- Going down to a child puts its index before all paths. -/
theorem under (index : Nat) (h : ListsInOrder holds statements) :
    ListsInOrder (fun path statement => ∃ rest, path = index :: rest ∧ holds rest statement)
      statements := by
  obtain ⟨paths, hsorted, hmem, hforall⟩ := h
  refine ⟨paths.map fun path => index :: path, ?_, ?_, ?_⟩
  · rw [List.pairwise_map]
    exact hsorted.imp fun hlt => List.cons_lt_cons_iff.mpr (Or.inr ⟨rfl, hlt⟩)
  · intro path
    rw [List.mem_map]
    constructor
    · rintro ⟨rest, hrest, rfl⟩
      obtain ⟨statement, hstatement⟩ := (hmem rest).mp hrest
      exact ⟨statement, rest, rfl, hstatement⟩
    · rintro ⟨statement, rest, rfl, hstatement⟩
      exact ⟨rest, (hmem rest).mpr ⟨statement, hstatement⟩, rfl⟩
  · rw [List.forall₂_map_left_iff]
    exact hforall.imp fun path _ hholds => ⟨path, rfl, hholds⟩

end ListsInOrder

/-- What two relations between lists have in common in the middle joins their ends. -/
theorem forall₂_join {α β γ : Type} {R : α → β → Prop} {S : β → γ → Prop} {first : List α}
    {middle : List β} {last : List γ} (hfirst : List.Forall₂ R first middle)
    (hlast : List.Forall₂ S middle last) :
    List.Forall₂ (fun item result => ∃ between, R item between ∧ S between result) first last := by
  induction hfirst generalizing last with
  | nil =>
      cases hlast
      exact List.Forall₂.nil
  | cons hhead htail ih =>
      cases hlast with
      | cons hhead' htail' => exact List.Forall₂.cons ⟨_, hhead, hhead'⟩ (ih htail')

namespace Tree

theorem listsInOrder_reported (tree : Tree) :
    ListsInOrder (fun path statement => path = [] ∧ statement ∈ tree.reported) tree.reported := by
  rcases reported_eq tree with hnil | ⟨own, hown⟩
  · rw [hnil]
    exact ListsInOrder.nil fun _ _ ⟨_, hmem⟩ => List.not_mem_nil hmem
  · rw [hown]
    refine ⟨[[]], List.pairwise_singleton _ _, fun path => ?_, ?_⟩
    · simp
    · exact List.Forall₂.cons ⟨rfl, List.mem_singleton_self own⟩ List.Forall₂.nil

/-- Trees one after the other, the first one at a given index. -/
theorem listsInOrder_flatMap {trees : List Tree} (first : Nat)
    (h : ∀ tree ∈ trees, ListsInOrder tree.HasUnbraced tree.unbraced) :
    ListsInOrder (fun path statement => ∃ index rest tree, path = (first + index) :: rest ∧
      trees[index]? = some tree ∧ tree.HasUnbraced rest statement) (trees.flatMap unbraced) := by
  induction trees generalizing first with
  | nil => exact ListsInOrder.nil fun _ _ ⟨_, _, _, _, hnone, _⟩ => by simp at hnone
  | cons tree trees ih =>
      rw [List.forall_mem_cons] at h
      rw [List.flatMap_cons]
      refine (((h.1.under first).append (ih (first + 1) h.2) ?_)).congr ?_
      · rintro _ _ _ _ ⟨rest, rfl, -⟩ ⟨index, rest', child, rfl, -⟩
        exact List.cons_lt_cons_iff.mpr (Or.inl (by omega))
      · intro path statement
        constructor
        · rintro (⟨rest, rfl, hholds⟩ | ⟨index, rest, child, rfl, hchild, hholds⟩)
          · exact ⟨0, rest, tree, rfl, rfl, hholds⟩
          · exact ⟨index + 1, rest, child, by rw [Nat.add_assoc, Nat.add_comm 1], hchild, hholds⟩
        · rintro ⟨index, rest, child, rfl, hchild, hholds⟩
          cases index with
          | zero =>
              cases hchild
              exact Or.inl ⟨rest, rfl, hholds⟩
          | succ index =>
              exact Or.inr ⟨index, rest, child, by rw [Nat.add_assoc, Nat.add_comm 1], hchild, hholds⟩

theorem listsInOrder_unbraced (tree : Tree) : ListsInOrder tree.HasUnbraced tree.unbraced := by
  induction tree using children_induction with
  | step tree ih =>
      rw [unbraced_eq]
      refine ((listsInOrder_reported tree).append (listsInOrder_flatMap 0 ih) ?_).congr ?_
      · rintro _ _ _ _ ⟨rfl, -⟩ ⟨index, rest, child, rfl, -⟩
        exact List.nil_lt_cons _ _
      · intro path statement
        cases path with
        | nil =>
            rw [hasUnbraced_nil]
            simp
        | cons index path =>
            rw [hasUnbraced_cons]
            simp

/-- **The diagnostics of the rule stand for the statements without braces.** They come in the order of
the paths of these statements, each of them about the statement at its path, and there are no
others. -/
theorem lintTree_lists_unbraced (rule : Curly) (specifier : Url) {text : Text} {tree : Tree}
    (h : ∀ node ∈ tree.nodes, node.span.IsIn text) :
    ∃ diagnostics paths, lintTree [rule.toRule] specifier text tree = .ok diagnostics ∧
      paths.Pairwise (· < ·) ∧
      (∀ path, path ∈ paths ↔ ∃ statement, tree.HasUnbraced path statement) ∧
      List.Forall₂ (fun path diagnostic => ∃ statement, tree.HasUnbraced path statement ∧
        rule.Reports specifier text statement diagnostic) paths diagnostics := by
  obtain ⟨diagnostics, hlint, hreports⟩ := exists_lintTree_reports rule specifier (unbraced_isIn h)
  obtain ⟨paths, hsorted, hmem, hholds⟩ := listsInOrder_unbraced tree
  exact ⟨diagnostics, paths, hlint, hsorted, hmem, forall₂_join hholds hreports⟩

end Tree

namespace LoopInElse

/-- A `do` statement that is the alternate of an `if`, both without braces. -/
def text : Text := "if (\"é\") f();\nelse do g(); while (x)".toList

/-- The tree of the `if`. -/
def tree : Tree :=
  .node ⟨0, 37⟩ [.control (.ifElse ⟨0, 37⟩ (.node ⟨4, 8⟩ [])
    (.node ⟨10, 14⟩ [.node ⟨10, 13⟩ [.node ⟨10, 11⟩ []]])
    (some (.control (.doWhile ⟨20, 37⟩ (.node ⟨35, 36⟩ [])
      (.node ⟨23, 27⟩ [.node ⟨23, 26⟩ [.node ⟨23, 24⟩ []]])))))]

/-- The diagnostic of the `if`, which repairs the consequent. -/
def branch : Diagnostic :=
  .expected SourceFile.exampleUrl ⟨0, 0, 0⟩ ⟨1, 22, 37⟩ "Use curly braces for \x60if\x60 statement"
    ⟨10, 14⟩ "\x7b\nf();\x7d"

/-- The diagnostic of the `do` statement. -/
def loop : Diagnostic :=
  .expected SourceFile.exampleUrl ⟨1, 5, 20⟩ ⟨1, 22, 37⟩
    "Use curly braces for \x60do-while\x60 statement" ⟨23, 27⟩ "\x7b\ng();\x7d"

end LoopInElse

theorem Tree.loopInElse_lists_unbraced :
    (∀ node ∈ LoopInElse.tree.nodes, node.span.IsIn LoopInElse.text) ∧
      programParser SourceFile.exampleUrl (MediaType.ofUrl SourceFile.exampleUrl) LoopInElse.text =
        .ok LoopInElse.tree ∧
      lintTree [Curly.fixable.toRule] SourceFile.exampleUrl LoopInElse.text LoopInElse.tree =
        .ok [LoopInElse.branch, LoopInElse.loop] ∧
      (∀ path, path ∈ [[0], [0, 2]] ↔ ∃ statement, LoopInElse.tree.HasUnbraced path statement) ∧
      List.Forall₂ (fun path diagnostic => ∃ statement, LoopInElse.tree.HasUnbraced path statement ∧
        Curly.fixable.Reports SourceFile.exampleUrl LoopInElse.text statement diagnostic)
        [[0], [0, 2]] [LoopInElse.branch, LoopInElse.loop] := by
  have hspans : ∀ node ∈ LoopInElse.tree.nodes, node.span.IsIn LoopInElse.text := by decide +kernel
  have hparse : programParser SourceFile.exampleUrl (MediaType.ofUrl SourceFile.exampleUrl)
      LoopInElse.text = .ok LoopInElse.tree := by
    decide +kernel
  have hlint : lintTree [Curly.fixable.toRule] SourceFile.exampleUrl LoopInElse.text LoopInElse.tree =
      .ok [LoopInElse.branch, LoopInElse.loop] := by
    decide +kernel
  obtain ⟨diagnostics, paths, hfound, hsorted, hpaths, hreports⟩ :=
    lintTree_lists_unbraced Curly.fixable SourceFile.exampleUrl hspans
  obtain rfl := Except.ok.inj (hlint.symm.trans hfound)
  have hbranch : [0] ∈ paths := (hpaths _).mpr ⟨⟨.ifElse, ⟨0, 37⟩, ⟨10, 14⟩⟩, _, _, rfl,
    Governs.ifElse _ _ _ _, fun _ _ hblock => (nomatch hblock), rfl, rfl⟩
  have hloop : [0, 2] ∈ paths := (hpaths _).mpr ⟨⟨.doWhile, ⟨20, 37⟩, ⟨23, 27⟩⟩, _, _, rfl,
    Governs.doWhile _ _ _, fun _ _ hblock => (nomatch hblock), rfl, rfl⟩
  have heq : paths = [[0], [0, 2]] := by
    rcases hreports with _ | ⟨-, _ | ⟨-, _ | _⟩⟩
    rcases List.mem_pair.mp hbranch with rfl | rfl
    · rcases List.mem_pair.mp hloop with hne | rfl
      · exact absurd hne (by decide)
      · rfl
    · rcases List.mem_pair.mp hloop with rfl | hne
      · exact absurd hsorted (by decide)
      · exact absurd hne (by decide)
  rw [heq] at hpaths hreports
  exact ⟨hspans, hparse, hlint, hpaths, hreports⟩

end BraceLint
