import BraceLint.Proofs.Linted
import BraceLint.Proofs.Passes

/-! What one pass of fixing leaves. Braces go around the outermost bodies, so the statements of these
bodies are done, and each of the other statements is in one of the bodies. Linting again finds exactly
these other statements, in the same order, where the braces have moved them. The statement that comes
first is in no body, so whenever there is something to fix, a pass leaves less. -/

namespace BraceLint

/-- The bodies that a pass puts in braces. -/
def Tree.wrapped (tree : Tree) : List Span :=
  outermost (tree.unbraced.map Unbraced.body)

/-- A diagnostic comes again once bodies are in braces: it says the same, and it starts later by two
bytes for each body that starts no later than it, and by one more for each that has ended. -/
structure Diagnostic.MovesTo (bodies : List Span) (before after : Diagnostic) : Prop where
  specifier : after.specifier = before.specifier
  code : after.code = before.code
  message : after.message = before.message
  hint : after.hint = before.hint
  start : after.range.start.byte = before.range.start.byte +
    2 * (bodies.countP fun body => body.start ≤ before.range.start.byte) +
    bodies.countP fun body => body.stop ≤ before.range.start.byte

section Pass

variable {specifier : Url} {text : Text} {statements : List Unbraced}

/-- What the rule says of a statement and of the same statement where braces have moved it. -/
theorem Curly.Reports.movesTo {rule : Curly} {bodies : List Span} {statement : Unbraced}
    {before after : Diagnostic} (hbefore : rule.Reports specifier text statement before)
    (hafter : rule.Reports specifier (text.braced bodies) (statement.moved bodies) after) :
    before.MovesTo bodies after where
  specifier := hafter.specifier.trans hbefore.specifier.symm
  code := hafter.code.trans hbefore.code.symm
  message := hafter.message.trans hbefore.message.symm
  hint := hafter.hint.trans hbefore.hint.symm
  start := by
    rw [hafter.start.byte_eq, hbefore.start.byte_eq]
    rfl

/-- Diagnostics of the statements that are left stand for the diagnostics these statements had. -/
theorem forall₂_movesTo {rule : Curly} {bodies : List Span} {keep : Unbraced → Bool}
    {found left : List Diagnostic}
    (hfound : List.Forall₂ (rule.Reports specifier text) statements found)
    (hleft : List.Forall₂ (rule.Reports specifier (text.braced bodies))
      ((statements.filter keep).map fun statement => statement.moved bodies) left) :
    List.Forall₂ (fun reported diagnostic => Diagnostic.MovesTo bodies reported.2 diagnostic)
      ((statements.zip found).filter fun reported => keep reported.1) left := by
  have hpairs : statements.filter keep =
      ((statements.zip found).filter fun reported => keep reported.1).map Prod.fst := by
    conv_lhs => rw [← List.map_fst_zip (Nat.le_of_eq hfound.length_eq), List.filter_map]
    rfl
  have hown : ∀ reported ∈ (statements.zip found).filter fun reported => keep reported.1,
      rule.Reports specifier text reported.1 reported.2 := fun reported hreported =>
    List.forall₂_zip hfound (List.mem_filter.mp hreported).1
  rw [hpairs, List.map_map, List.forall₂_map_left_iff] at hleft
  exact ((List.forall₂_and_left _ _).mpr ⟨hown, hleft⟩).imp fun _ _ h => h.1.movesTo h.2

theorem Laminar.not_within_head {head outer : Unbraced} (h : Laminar text (head :: statements))
    (houter : outer ∈ head :: statements) : ¬outer.Within head := by
  intro hwithin
  have hhead := h.fits head List.mem_cons_self
  have hstarts := hwithin.body_start_lt hhead
  -- Later statements are in the body of the first one or apart from it, never around it.
  rcases List.mem_cons.mp houter with rfl | hlater
  · exact Nat.lt_irrefl _ hstarts
  · rcases (List.pairwise_cons.mp h.separate).1 outer hlater with hinner | hapart
    · exact Nat.lt_asymm hstarts (hinner.body_start_lt (h.fits outer houter))
    · exact hapart.not_inside hhead.nonempty (hwithin.body_inside hhead)

theorem Laminar.length_filter_within_lt (h : Laminar text statements) (hne : statements ≠ []) :
    (statements.filter fun inner => ∃ outer ∈ statements, outer.Within inner).length <
      statements.length := by
  cases statements with
  | nil => exact absurd rfl hne
  | cons head rest =>
      refine List.length_filter_lt_length_iff_exists.mpr ⟨head, List.mem_cons_self, ?_⟩
      rw [decide_eq_true_eq]
      rintro ⟨outer, houter, hwithin⟩
      exact h.not_within_head houter hwithin

end Pass

/-- **A pass loses nothing and invents nothing.** Let a file be nested in its text, and let the parser
read the text with braces around the outermost bodies as the same tree with these bodies as blocks.
Then fixing all diagnostics of the file at once gives that text, and linting it gives exactly the
diagnostics whose statement is in the body of another one, in their order, each with the same words and
moved by the braces before it. These are fewer, unless there were none. -/
theorem lintFile_leaves_enclosed {parser : Parser} {file : SourceFile} {tree : Tree}
    (hparse : parser file.specifier file.mediaType file.text = .ok tree)
    (hnested : tree.WellNested file.text)
    (hreparse : parser file.specifier file.mediaType (file.text.braced tree.wrapped) =
      .ok (tree.braced tree.wrapped)) :
    ∃ found fixed left,
      lintFile parser [Curly.fixable.toRule] file = .ok found ∧
      List.Forall₂ (Curly.fixable.Reports file.specifier file.text) tree.unbraced found ∧
      applyFirstFixes file.text found = .ok fixed ∧ fixed = file.text.braced tree.wrapped ∧
      lintFile parser [Curly.fixable.toRule] { file with text := fixed } = .ok left ∧
      List.Forall₂ (fun reported diagnostic => Diagnostic.MovesTo tree.wrapped reported.2 diagnostic)
        ((tree.unbraced.zip found).filter fun reported =>
          ∃ outer ∈ tree.unbraced, outer.Within reported.1) left ∧
      (found ≠ [] → left.length < found.length) := by
  have hlaminar := hnested.laminar
  obtain ⟨found, hlint, hfound⟩ := exists_lintFile_reports file hparse hlaminar
  have hlaminarBraced : Laminar (file.text.braced tree.wrapped) (tree.braced tree.wrapped).unbraced := by
    rw [Tree.unbraced_braced]
    exact hlaminar.remaining hlaminar.isIn_of_mem_outermost
  obtain ⟨left, hlintBraced, hleft⟩ := exists_lintFile_reports
    { file with text := file.text.braced tree.wrapped } hreparse hlaminarBraced
  rw [Tree.unbraced_braced, remaining, Tree.wrapped, hlaminar.leftOver_outermost] at hleft
  refine ⟨found, _, left, hlint, hfound, applyFirstFixes_of_reports hlaminar hfound, rfl, hlintBraced,
    forall₂_movesTo hfound hleft, fun hne => ?_⟩
  have hstatements : tree.unbraced ≠ [] := by
    rintro hnil
    rw [hnil] at hfound
    exact hne (List.forall₂_nil_left_iff.mp hfound)
  rw [← hleft.length_eq, ← hfound.length_eq, List.length_map]
  exact hlaminar.length_filter_within_lt hstatements

/-! ### A loop in a function and a loop in another branch -/

namespace TwoBranches

/-- An `if` whose body calls with a function that has a loop in it. The other branch is an `if` too: it
is not in the body of the first one, and its own body is a loop. -/
def text : Text :=
  "if (a) b(function () \x7b while (c) d(); \x7d); else if (e) for (;;) f();".toList

/-- The tree of the two branches. -/
def tree : Tree :=
  .node ⟨0, 67⟩ [.control (.ifElse ⟨0, 67⟩ (.node ⟨4, 5⟩ [])
    (.node ⟨7, 41⟩ [.node ⟨7, 40⟩ [.node ⟨7, 8⟩ [], .node ⟨9, 39⟩ [.block ⟨21, 39⟩
      [.control (.whileLoop ⟨23, 37⟩ (.node ⟨30, 31⟩ [])
        (.node ⟨33, 37⟩ [.node ⟨33, 36⟩ [.node ⟨33, 34⟩ []]]))]]]])
    (some (.control (.ifElse ⟨47, 67⟩ (.node ⟨51, 52⟩ [])
      (.control (.forLoop ⟨54, 67⟩ none none none
        (.node ⟨63, 67⟩ [.node ⟨63, 66⟩ [.node ⟨63, 64⟩ []]]))) none))))]

/-- The file that has the two branches. -/
def file : SourceFile :=
  SourceFile.ofUrl SourceFile.exampleUrl text

end TwoBranches

/-- The two loops are left, each later by the braces before it. -/
theorem twoBranches_leaves_enclosed :
    programParser TwoBranches.file.specifier TwoBranches.file.mediaType TwoBranches.file.text =
      .ok TwoBranches.tree ∧
    TwoBranches.tree.WellNested TwoBranches.file.text ∧
    programParser TwoBranches.file.specifier TwoBranches.file.mediaType
      (TwoBranches.file.text.braced TwoBranches.tree.wrapped) =
        .ok (TwoBranches.tree.braced TwoBranches.tree.wrapped) ∧
    ∃ found fixed left,
      lintFile programParser [Curly.fixable.toRule] TwoBranches.file = .ok found ∧
      applyFirstFixes TwoBranches.file.text found = .ok fixed ∧
      lintFile programParser [Curly.fixable.toRule] { TwoBranches.file with text := fixed } = .ok left ∧
      startBytes found = [0, 23, 47, 54] ∧ startBytes left = [25, 59] := by
  have hparse : programParser TwoBranches.file.specifier TwoBranches.file.mediaType
      TwoBranches.file.text = .ok TwoBranches.tree := by
    decide +kernel
  have hnested : TwoBranches.tree.WellNested TwoBranches.file.text := by decide +kernel
  have hreparse : programParser TwoBranches.file.specifier TwoBranches.file.mediaType
      (TwoBranches.file.text.braced TwoBranches.tree.wrapped) =
        .ok (TwoBranches.tree.braced TwoBranches.tree.wrapped) := by
    decide +kernel
  obtain ⟨found, fixed, left, hlint, hfound, happly, -, hagain, hmoved, -⟩ :=
    lintFile_leaves_enclosed hparse hnested hreparse
  refine ⟨hparse, hnested, hreparse, found, fixed, left, hlint, happly, hagain, ?_⟩
  have hunbraced : TwoBranches.tree.unbraced = [⟨.ifElse, ⟨0, 67⟩, ⟨7, 41⟩⟩,
      ⟨.whileLoop, ⟨23, 37⟩, ⟨33, 37⟩⟩, ⟨.ifElse, ⟨47, 67⟩, ⟨54, 67⟩⟩,
      ⟨.forLoop, ⟨54, 67⟩, ⟨63, 67⟩⟩] := by
    decide
  have hwrapped : TwoBranches.tree.wrapped = [⟨7, 41⟩, ⟨54, 67⟩] := by decide
  rw [hunbraced] at hfound hmoved
  rw [hwrapped] at hmoved
  rcases hfound with _ | ⟨hif, _ | ⟨hwhile, _ | ⟨helse, _ | ⟨hfor, _ | _⟩⟩⟩⟩
  rcases hmoved with _ | ⟨hinBody, _ | ⟨hinBranch, _ | _⟩⟩
  constructor
  · simp only [startBytes, List.map_cons, List.map_nil, hif.start.byte_eq, hwhile.start.byte_eq,
      helse.start.byte_eq, hfor.start.byte_eq]
  · simp only [startBytes, List.map_cons, List.map_nil, hinBody.start, hinBranch.start,
      hwhile.start.byte_eq, hfor.start.byte_eq]
    decide

end BraceLint
