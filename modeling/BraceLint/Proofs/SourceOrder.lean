import BraceLint.Proofs.Linted

/-! When the diagnostics of a file come in the order of its text. They come in the order in which the
nodes of the tree list their children, and some nodes do not list them in the order of the text. So
the diagnostics come in the order of the text exactly when no node lists two children with
statements without braces the other way round. The test of a `do` statement is listed before its
body, and with statements in both the order is lost. -/

namespace BraceLint

namespace Tree

/-- Control statements start with a keyword: whatever they consist of starts later than they do. -/
def KeywordFirst (tree : Tree) : Prop :=
  ∀ node ∈ tree.nodes, node.body?.isSome → ∀ child ∈ node.children, node.span.start < child.span.start

instance (tree : Tree) : Decidable tree.KeywordFirst :=
  inferInstanceAs (Decidable (∀ node ∈ tree.nodes, node.body?.isSome →
    ∀ child ∈ node.children, node.span.start < child.span.start))

/-- Of two children of a node that hold statements without braces, the one that is listed first ends
before the other one starts. -/
def ListsInTextOrder (tree : Tree) : Prop :=
  ∀ node ∈ tree.nodes, node.children.Pairwise fun left right =>
    left.unbraced = [] ∨ right.unbraced = [] ∨ left.span.stop ≤ right.span.start

instance (tree : Tree) : Decidable tree.ListsInTextOrder :=
  inferInstanceAs (Decidable (∀ node ∈ tree.nodes, node.children.Pairwise fun left right =>
    left.unbraced = [] ∨ right.unbraced = [] ∨ left.span.stop ≤ right.span.start))

theorem forall_mem_nodes_iff {tree : Tree} {P : Tree → Prop} :
    (∀ node ∈ tree.nodes, P node) ↔ P tree ∧ ∀ child ∈ tree.children, ∀ node ∈ child.nodes, P node := by
  rw [nodes_eq, List.forall_mem_cons]
  simp only [List.mem_flatMap]
  constructor
  · exact fun ⟨hown, hrest⟩ => ⟨hown, fun child hchild node hnode => hrest node ⟨child, hchild, hnode⟩⟩
  · exact fun ⟨hown, hrest⟩ => ⟨hown, fun node ⟨child, hchild, hnode⟩ => hrest child hchild node hnode⟩

variable {text : Text}

/-- The statements of one tree start before those of another one that is apart from it exactly if the
one ends before the other starts, or if one of them has no statements. -/
theorem WellNested.starts_lt_iff {left right : Tree} (hleft : left.WellNested text)
    (hright : right.WellNested text) (hapart : left.span.Apart right.span) :
    (∀ earlier ∈ left.unbraced, ∀ later ∈ right.unbraced, earlier.span.start < later.span.start) ↔
      left.unbraced = [] ∨ right.unbraced = [] ∨ left.span.stop ≤ right.span.start := by
  have hnonempty : ∀ tree : Tree, tree.WellNested text → ∀ statement ∈ tree.unbraced,
      statement.span.start < statement.span.stop := by
    intro tree htree statement hstatement
    have hfits := htree.fits statement hstatement
    exact (hfits.start_lt.trans hfits.nonempty).trans_le hfits.inside.2
  constructor
  · intro hlt
    by_cases hleftNil : left.unbraced = []
    · exact Or.inl hleftNil
    by_cases hrightNil : right.unbraced = []
    · exact Or.inr (Or.inl hrightNil)
    refine Or.inr (Or.inr (hapart.resolve_right fun hbefore => ?_))
    obtain ⟨earlier, hearlier⟩ := List.exists_mem_of_ne_nil _ hleftNil
    obtain ⟨later, hlater⟩ := List.exists_mem_of_ne_nil _ hrightNil
    have hstarts := hlt earlier hearlier later hlater
    have hearlierIn := hleft.span_inside earlier hearlier
    have hlaterIn := hright.span_inside later hlater
    have hlaterSize := hnonempty right hright later hlater
    exact absurd hstarts (by have := hearlierIn.1; have := hlaterIn.2; omega)
  · rintro (hnil | hnil | hbefore) earlier hearlier later hlater
    · rw [hnil] at hearlier
      cases hearlier
    · rw [hnil] at hlater
      cases hlater
    · have hearlierIn := hleft.span_inside earlier hearlier
      have hlaterIn := hright.span_inside later hlater
      have hearlierSize := hnonempty left hleft earlier hearlier
      have := hearlierIn.2
      have := hlaterIn.1
      omega

/-- What a node reports by itself starts before all statements in its children. -/
theorem WellNested.reported_start_lt {tree child : Tree} (h : tree.WellNested text)
    (hkeyword : tree.KeywordFirst) {own later : Unbraced} (hown : own ∈ tree.reported)
    (hchild : child ∈ tree.children) (hlater : later ∈ child.unbraced) :
    own.span.start < later.span.start := by
  obtain ⟨control, rfl, -, rfl⟩ := mem_reported_iff.mp hown
  have hstart := hkeyword _ (self_mem_nodes _) rfl child hchild
  exact hstart.trans_le ((h.of_mem_children hchild).span_inside later hlater).1

theorem WellNested.pairwise_start_lt_iff {tree : Tree} (h : tree.WellNested text)
    (hkeyword : tree.KeywordFirst) :
    (tree.unbraced.Pairwise fun earlier later => earlier.span.start < later.span.start) ↔
      tree.ListsInTextOrder := by
  induction tree using children_induction with
  | step tree ih =>
      have hinner : ∀ child ∈ tree.children, child.KeywordFirst :=
        (forall_mem_nodes_iff.mp hkeyword).2
      have hown : tree.reported.Pairwise fun earlier later => earlier.span.start < later.span.start := by
        rcases reported_eq tree with hnil | ⟨own, hsingle⟩
        · rw [hnil]
          exact List.Pairwise.nil
        · rw [hsingle]
          exact List.pairwise_singleton _ _
      have hfirst : ∀ own ∈ tree.reported, ∀ later ∈ tree.children.flatMap unbraced,
          own.span.start < later.span.start := by
        intro own hmem later hlater
        obtain ⟨child, hchild, hstatement⟩ := List.mem_flatMap.mp hlater
        exact h.reported_start_lt hkeyword hmem hchild hstatement
      -- Siblings are apart, so of each pair it is enough to know which one comes first.
      have hsiblings : (tree.children.Pairwise fun left right => ∀ earlier ∈ left.unbraced,
            ∀ later ∈ right.unbraced, earlier.span.start < later.span.start) ↔
          tree.children.Pairwise fun left right =>
            left.unbraced = [] ∨ right.unbraced = [] ∨ left.span.stop ≤ right.span.start := by
        have hiff : ∀ {left right : Tree}, left ∈ tree.children → right ∈ tree.children →
            left.span.Apart right.span →
            ((∀ earlier ∈ left.unbraced, ∀ later ∈ right.unbraced,
                earlier.span.start < later.span.start) ↔
              left.unbraced = [] ∨ right.unbraced = [] ∨ left.span.stop ≤ right.span.start) :=
          fun hleft hright =>
            (h.of_mem_children hleft).starts_lt_iff (h.of_mem_children hright)
        constructor
        · intro hstarts
          exact (hstarts.and h.nested.apart).imp_of_mem fun hleft hright hboth =>
            (hiff hleft hright hboth.2).mp hboth.1
        · intro hlisted
          exact (hlisted.and h.nested.apart).imp_of_mem fun hleft hright hboth =>
            (hiff hleft hright hboth.2).mpr hboth.1
      rw [unbraced_eq, List.pairwise_append, List.pairwise_flatMap, hsiblings, ListsInTextOrder,
        forall_mem_nodes_iff]
      constructor
      · rintro ⟨-, ⟨hchildren, hlisted⟩, -⟩
        exact ⟨hlisted, fun child hchild =>
          (ih child hchild (h.of_mem_children hchild) (hinner child hchild)).mp (hchildren child hchild)⟩
      · rintro ⟨hlisted, hchildren⟩
        exact ⟨hown, ⟨fun child hchild =>
          (ih child hchild (h.of_mem_children hchild) (hinner child hchild)).mpr
            (hchildren child hchild), hlisted⟩, hfirst⟩

end Tree

/-- **Diagnostics come in the order of the text exactly if the tree does.** For a file whose parts are
nested in its text and whose control statements start with their keyword, the diagnostics of one rule
start one after the other exactly when no node of the tree lists two children with statements
without braces against the order of the text. -/
theorem lintFile_starts_increasing_iff (parser : Parser) (rule : Curly) (file : SourceFile) {tree : Tree}
    (hparse : parser file.specifier file.mediaType file.text = .ok tree)
    (hnested : tree.WellNested file.text) (hkeyword : tree.KeywordFirst) :
    ∃ diagnostics, lintFile parser [rule.toRule] file = .ok diagnostics ∧
      ((startBytes diagnostics).Pairwise (· < ·) ↔ tree.ListsInTextOrder) := by
  obtain ⟨diagnostics, hlint, -⟩ := exists_lintTree_reports rule file.specifier hnested.laminar.isIn
  refine ⟨diagnostics, ?_, ?_⟩
  · simp only [lintFile, hparse, hlint]
  · rw [startBytes_eq (forall₂_of_lintTree hlint), List.pairwise_map]
    exact hnested.pairwise_start_lt_iff hkeyword

/-! ### A statement in the test of a `do` statement -/

namespace TestListedFirst

/-- A `do` statement with an `if` in its body and another one in a function in its test. -/
def text : Text := "do \x7b if (a) b(); \x7d while (function () \x7b if (c) d(); \x7d());".toList

/-- The tree of the `do` statement. The test is listed before the body. -/
def tree : Tree :=
  .node ⟨0, 57⟩ [.control (.doWhile ⟨0, 57⟩
    (.node ⟨26, 55⟩ [.node ⟨26, 53⟩ [.block ⟨38, 53⟩ [.control (.ifElse ⟨40, 51⟩ (.node ⟨44, 45⟩ [])
      (.node ⟨47, 51⟩ [.node ⟨47, 50⟩ [.node ⟨47, 48⟩ []]]) none)]]])
    (.block ⟨3, 18⟩ [.control (.ifElse ⟨5, 16⟩ (.node ⟨9, 10⟩ [])
      (.node ⟨12, 16⟩ [.node ⟨12, 15⟩ [.node ⟨12, 13⟩ []]]) none)]))]

/-- The file that has the `do` statement. -/
def file : SourceFile := SourceFile.ofUrl SourceFile.exampleUrl text

theorem parse : programParser file.specifier file.mediaType file.text = .ok tree := by
  decide +kernel

end TestListedFirst

theorem testListedFirst_starts :
    (∃ diagnostics, lintFile programParser [Curly.fixable.toRule]
        (SourceFile.ofUrl SourceFile.exampleUrl LoopAroundIf.text) = .ok diagnostics ∧
      (startBytes diagnostics).Pairwise (· < ·)) ∧
    (TestListedFirst.tree.WellNested TestListedFirst.file.text ∧ TestListedFirst.tree.KeywordFirst ∧
      ∃ diagnostics, lintFile programParser [Curly.fixable.toRule] TestListedFirst.file =
          .ok diagnostics ∧
        ¬(startBytes diagnostics).Pairwise (· < ·)) := by
  have hnested : TestListedFirst.tree.WellNested TestListedFirst.file.text := by decide +kernel
  have hkeyword : TestListedFirst.tree.KeywordFirst := by decide
  obtain ⟨inOrder, hinOrder, hincreasing⟩ := lintFile_starts_increasing_iff programParser Curly.fixable
    (SourceFile.ofUrl SourceFile.exampleUrl LoopAroundIf.text) LoopAroundIf.parse (by decide) (by decide)
  obtain ⟨outOfOrder, houtOfOrder, hdecreasing⟩ := lintFile_starts_increasing_iff programParser
    Curly.fixable TestListedFirst.file TestListedFirst.parse hnested hkeyword
  exact ⟨⟨inOrder, hinOrder, hincreasing.mpr (by decide)⟩, hnested, hkeyword, outOfOrder, houtOfOrder,
    fun hlt => absurd (hdecreasing.mp hlt) (by decide)⟩

/-- Diagnostics do not come in the order of the text where a test is listed before a body. -/
theorem not_starts_increasing_of_test :
    ∃ diagnostics, lintFile programParser [Curly.fixable.toRule] TestListedFirst.file = .ok diagnostics ∧
      startBytes diagnostics = [40, 5] ∧ ¬(startBytes diagnostics).Pairwise (· < ·) := by
  have hstarts : (lintTree [Curly.fixable.toRule] TestListedFirst.file.specifier
      TestListedFirst.file.text TestListedFirst.tree).map startBytes = .ok [40, 5] := by
    decide +kernel
  cases hlint : lintTree [Curly.fixable.toRule] TestListedFirst.file.specifier
      TestListedFirst.file.text TestListedFirst.tree with
  | error fault =>
      rw [hlint] at hstarts
      cases hstarts
  | ok diagnostics =>
      rw [hlint] at hstarts
      have hbytes : startBytes diagnostics = [40, 5] := Except.ok.inj hstarts
      refine ⟨diagnostics, ?_, hbytes, ?_⟩
      · simp only [lintFile, TestListedFirst.parse, hlint]
      · rw [hbytes]
        decide

end BraceLint
