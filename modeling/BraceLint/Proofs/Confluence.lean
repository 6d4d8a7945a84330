import BraceLint.Proofs.Passes

/-! Fixing one diagnostic at a time. Whichever diagnostic is chosen, its fix puts braces around one of
the bodies that are left, so after any run the text is the first one with braces around as many bodies
as the run has steps. A run cannot stop before all bodies have got their braces, and then the order
in which they got them cannot be seen. -/

namespace BraceLint

/-- One fix: of the diagnostics of a text one is chosen, and only its fix is applied. -/
def FixesOne (parser : Parser) (specifier : Url) (text fixed : Text) : Prop :=
  ∃ diagnostics, lintText parser [Curly.fixable.toRule] specifier text = .ok diagnostics ∧
    ∃ diagnostic ∈ diagnostics, applyFirstFixes text [diagnostic] = .ok fixed

/-- A number of single fixes one after the other, each chosen from what linting finds by then. -/
inductive FixesOneByOne (parser : Parser) (specifier : Url) (text : Text) : Nat → Text → Prop where
  | start : FixesOneByOne parser specifier text 0 text
  | step {steps : Nat} {reached fixed : Text} (hrun : FixesOneByOne parser specifier text steps reached)
      (hfix : FixesOne parser specifier reached fixed) :
      FixesOneByOne parser specifier text (steps + 1) fixed

/-! ### Runs -/

namespace Parser.Tracks

variable {parser : Parser} {specifier : Url} {text reached : Text} {statements : List Unbraced}
  {steps : Nat}

/-- A run of single fixes has put braces around as many bodies as it has steps. -/
theorem exists_bodies_of_run (h : parser.Tracks specifier text statements)
    (hrun : FixesOneByOne parser specifier text steps reached) :
    ∃ bodies : List Span, bodies.Nodup ∧ bodies ⊆ statements.map Unbraced.body ∧
      bodies.length = steps ∧ reached = text.braced bodies := by
  induction hrun with
  | start => exact ⟨[], List.nodup_nil, List.nil_subset _, rfl, (Text.braced_nil text).symm⟩
  | step _ hfix ih =>
      obtain ⟨bodies, hnodup, hsub, hlength, rfl⟩ := ih
      obtain ⟨diagnostics, hlint, diagnostic, hmem, hfixed⟩ := hfix
      obtain ⟨found, hfound, hreports⟩ := h.exists_lintText hnodup hsub
      have hsame : found = diagnostics := Except.ok.inj (hfound.symm.trans hlint)
      rw [hsame] at hreports
      obtain ⟨statement, hstatement, happly⟩ := h.applyFirstFixes_one hsub hreports hmem
      obtain ⟨hold, hnew⟩ := mem_leftOver_iff.mp hstatement
      refine ⟨statement.body :: bodies, List.nodup_cons.mpr ⟨hnew, hnodup⟩, ?_, ?_, ?_⟩
      · exact List.cons_subset.mpr ⟨List.mem_map_of_mem hold, hsub⟩
      · rw [List.length_cons, hlength]
      · exact Except.ok.inj (hfixed.symm.trans happly)

/-- What linting finds after a run, and that any of it can be fixed next. -/
theorem exists_lintText_of_run (h : parser.Tracks specifier text statements)
    (hrun : FixesOneByOne parser specifier text steps reached) :
    ∃ left, lintText parser [Curly.fixable.toRule] specifier reached = .ok left ∧
      steps + left.length = statements.length ∧
      (∀ diagnostic ∈ left, ∃ fixed, applyFirstFixes reached [diagnostic] = .ok fixed) ∧
      (left = [] → reached = text.braced (statements.map Unbraced.body)) := by
  obtain ⟨bodies, hnodup, hsub, rfl, rfl⟩ := h.exists_bodies_of_run hrun
  obtain ⟨left, hlint, hreports⟩ := h.exists_lintText hnodup hsub
  have hlength : left.length = (leftOver statements bodies).length := by
    rw [← hreports.length_eq, remaining, List.length_map]
  refine ⟨left, hlint, ?_, fun diagnostic hmem => ?_, fun hnil => ?_⟩
  · rw [hlength]
    exact length_add_leftOver h.laminar hnodup hsub
  · obtain ⟨statement, -, happly⟩ := h.applyFirstFixes_one hsub hreports hmem
    exact ⟨_, happly⟩
  · rw [hnil, List.length_nil] at hlength
    exact Text.braced_perm
      (h.perm_of_leftOver_eq_nil hnodup hsub (List.length_eq_zero_iff.mp hlength.symm)) text

/-- No run gets stuck early. -/
theorem exists_run (h : parser.Tracks specifier text statements) (hle : steps ≤ statements.length) :
    ∃ reached, FixesOneByOne parser specifier text steps reached := by
  induction steps with
  | zero => exact ⟨text, FixesOneByOne.start⟩
  | succ steps ih =>
      obtain ⟨reached, hrun⟩ := ih (Nat.le_of_succ_le hle)
      obtain ⟨left, hlint, hlength, hfixable, -⟩ := h.exists_lintText_of_run hrun
      have hne : left ≠ [] := by
        rintro rfl
        rw [List.length_nil] at hlength
        omega
      obtain ⟨diagnostic, hmem⟩ := List.exists_mem_of_ne_nil left hne
      obtain ⟨fixed, hfixed⟩ := hfixable diagnostic hmem
      exact ⟨fixed, hrun.step ⟨left, hlint, diagnostic, hmem, hfixed⟩⟩

/-- Where passes end well, all bodies have got their braces. -/
theorem eq_of_fixText (h : parser.Tracks specifier text statements) {fixed : Text}
    (hfixed : fixText parser [Curly.fixable.toRule] specifier text = .ok fixed) :
    fixed = text.braced (statements.map Unbraced.body) := by
  obtain ⟨hlong, hshort⟩ := h.fixWithin_braced maxPasses List.nodup_nil (List.nil_subset _)
  rw [Text.braced_nil] at hlong hshort
  by_cases hchain : HasChain (leftOver statements []) maxPasses
  · rw [fixText, hlong hchain] at hfixed
    cases hfixed
  · rw [fixText, hshort hchain] at hfixed
    exact (Except.ok.inj hfixed).symm

end Parser.Tracks

/-! ### Programs that keep their shape one fix at a time -/

/-- What fixing asks of a parser, for a family of programs with their trees: the parser reads each of
them as its tree, which is nested in it, and with braces around one body that had none a program is
in the family again, with this body as a block. All programs that the parser accepts may be such a
family. -/
structure Parser.TakesOneBody (parser : Parser) (specifier : Url) (programs : Text → Tree → Prop) :
    Prop where
  reads : ∀ text tree, programs text tree →
    parser specifier (MediaType.ofUrl specifier) text = .ok tree
  wellNested : ∀ text tree, programs text tree → tree.WellNested text
  wraps : ∀ text tree, programs text tree → ∀ statement ∈ tree.unbraced,
    programs (text.braced [statement.body]) (tree.braced [statement.body])

section Family

variable {parser : Parser} {specifier : Url} {programs : Text → Tree → Prop} {text : Text} {tree : Tree}

/-- The family has a program for every choice of bodies. -/
theorem Parser.TakesOneBody.exists_program (h : parser.TakesOneBody specifier programs)
    (hprogram : programs text tree) {bodies : List Span} (hnodup : bodies.Nodup)
    (hsub : bodies ⊆ tree.unbraced.map Unbraced.body) :
    ∃ tree', programs (text.braced bodies) tree' ∧ tree'.unbraced = remaining tree.unbraced bodies := by
  have hfits := (h.wellNested text tree hprogram).fits
  induction bodies with
  | nil =>
      refine ⟨tree, ?_, (remaining_nil tree.unbraced).symm⟩
      rwa [Text.braced_nil]
  | cons body bodies ih =>
      obtain ⟨hnew, hnodupRest⟩ := List.nodup_cons.mp hnodup
      obtain ⟨hbody, hsubRest⟩ := List.cons_subset.mp hsub
      obtain ⟨tree', hprogram', hunbraced⟩ := ih hnodupRest hsubRest
      obtain ⟨statement, hstatement, rfl⟩ := List.mem_map.mp hbody
      have hbodies : ∀ other ∈ bodies, other.IsIn text := by
        intro other hother
        obtain ⟨owner, howner, rfl⟩ := List.mem_map.mp (hsubRest hother)
        exact (hfits owner howner).body_isIn
      have hmem : statement.moved bodies ∈ tree'.unbraced := by
        rw [hunbraced]
        exact List.mem_map_of_mem (mem_leftOver_iff.mpr ⟨hstatement, hnew⟩)
      have hwrapped := h.wraps _ _ hprogram' _ hmem
      refine ⟨tree'.braced [statement.body.moved bodies], ?_, ?_⟩
      · rw [← Text.braced_moved hbodies (hfits statement hstatement).body_isIn
          (hfits statement hstatement).nonempty]
        exact hwrapped
      · rw [Tree.unbraced_braced, hunbraced]
        calc remaining (remaining tree.unbraced bodies) [statement.body.moved bodies]
            = remaining tree.unbraced (bodies ++ [statement.body]) :=
              remaining_remaining tree.unbraced bodies [statement.body]
          _ = remaining tree.unbraced (statement.body :: bodies) :=
              remaining_perm List.perm_append_comm tree.unbraced

theorem Parser.TakesOneBody.tracks (h : parser.TakesOneBody specifier programs)
    (hprogram : programs text tree) : parser.Tracks specifier text tree.unbraced := by
  refine ⟨(h.wellNested text tree hprogram).laminar, fun bodies hnodup hsub => ?_⟩
  obtain ⟨tree', hprogram', hunbraced⟩ := h.exists_program hprogram hnodup hsub
  exact ⟨tree', h.reads _ _ hprogram', hunbraced⟩

/-- **Single fixes lead to one text in any order.** From a program with `n` diagnostics every run of
single fixes can go on until nothing is left to fix, which takes `n` steps, and it ends with the text
in which all reported bodies have braces. Where passes end well, they end with the same text. -/
theorem fixesOneByOne_confluent (h : parser.TakesOneBody specifier programs)
    (hprogram : programs text tree) :
    let final := text.braced (tree.unbraced.map Unbraced.body)
    ∃ diagnostics,
      lintText parser [Curly.fixable.toRule] specifier text = .ok diagnostics ∧
      List.Forall₂ (Curly.fixable.Reports specifier text) tree.unbraced diagnostics ∧
      (∀ steps reached, FixesOneByOne parser specifier text steps reached →
        ∃ left, lintText parser [Curly.fixable.toRule] specifier reached = .ok left ∧
          steps + left.length = diagnostics.length ∧
          (∀ diagnostic ∈ left, ∃ fixed, applyFirstFixes reached [diagnostic] = .ok fixed) ∧
          (left = [] → reached = final)) ∧
      FixesOneByOne parser specifier text diagnostics.length final ∧
      ∀ fixed, fixText parser (Selection.allRules.map Curly.toRule) specifier text = .ok fixed →
        fixed = final := by
  intro final
  have htracks := h.tracks hprogram
  obtain ⟨diagnostics, hlint, hreports⟩ := htracks.exists_lintText List.nodup_nil (List.nil_subset _)
  rw [Text.braced_nil, remaining_nil] at hreports
  rw [Text.braced_nil] at hlint
  have hruns : ∀ steps reached, FixesOneByOne parser specifier text steps reached →
      ∃ left, lintText parser [Curly.fixable.toRule] specifier reached = .ok left ∧
        steps + left.length = diagnostics.length ∧
        (∀ diagnostic ∈ left, ∃ fixed, applyFirstFixes reached [diagnostic] = .ok fixed) ∧
        (left = [] → reached = final) := by
    intro steps reached hrun
    rw [← hreports.length_eq]
    exact htracks.exists_lintText_of_run hrun
  refine ⟨diagnostics, hlint, hreports, hruns, ?_, fun fixed hfixed => htracks.eq_of_fixText hfixed⟩
  obtain ⟨reached, hrun⟩ := htracks.exists_run (Nat.le_of_eq hreports.length_eq.symm)
  obtain ⟨left, -, hlength, -, hend⟩ := hruns _ _ hrun
  have hnil : left = [] := List.length_eq_zero_iff.mp (by omega)
  rw [← hend hnil]
  exact hrun

end Family

/-- The loop around an `if` with any braces, with the tree it has then. -/
def LoopAroundIf.Variant (text : Text) (tree : Tree) : Prop :=
  ∃ bodies ∈ (LoopAroundIf.tree.unbraced.map Unbraced.body).sublists',
    text = LoopAroundIf.text.braced bodies ∧ tree = LoopAroundIf.tree.braced bodies

theorem LoopAroundIf.takesOneBody :
    programParser.TakesOneBody SourceFile.exampleUrl LoopAroundIf.Variant := by
  constructor
  · rintro _ _ ⟨bodies, hbodies, rfl, rfl⟩
    exact LoopAroundIf.takesBraces.rereads bodies (List.mem_sublists'.mp hbodies)
  · have hnested : ∀ bodies ∈ (LoopAroundIf.tree.unbraced.map Unbraced.body).sublists',
        (LoopAroundIf.tree.braced bodies).WellNested (LoopAroundIf.text.braced bodies) := by
      decide +kernel
    rintro _ _ ⟨bodies, hbodies, rfl, rfl⟩
    exact hnested bodies hbodies
  · have hwraps : ∀ bodies ∈ (LoopAroundIf.tree.unbraced.map Unbraced.body).sublists',
        ∀ statement ∈ (LoopAroundIf.tree.braced bodies).unbraced,
        ∃ others ∈ (LoopAroundIf.tree.unbraced.map Unbraced.body).sublists',
          (LoopAroundIf.text.braced bodies).braced [statement.body] = LoopAroundIf.text.braced others ∧
          (LoopAroundIf.tree.braced bodies).braced [statement.body] =
            LoopAroundIf.tree.braced others := by
      decide +kernel
    rintro _ _ ⟨bodies, hbodies, rfl, rfl⟩ statement hstatement
    exact hwraps bodies hbodies statement hstatement

theorem loopAroundIf_fixesOneByOne :
    programParser.TakesOneBody SourceFile.exampleUrl LoopAroundIf.Variant ∧
      LoopAroundIf.Variant LoopAroundIf.text LoopAroundIf.tree ∧
      FixesOneByOne programParser SourceFile.exampleUrl LoopAroundIf.text 2
        "while (a) \x7b\nif (b) \x7b\nc();\x7d\x7d".toList ∧
      ∀ reached, FixesOneByOne programParser SourceFile.exampleUrl LoopAroundIf.text 2 reached →
        reached = "while (a) \x7b\nif (b) \x7b\nc();\x7d\x7d".toList := by
  have hvariant : LoopAroundIf.Variant LoopAroundIf.text LoopAroundIf.tree :=
    ⟨[], by decide, by decide, rfl⟩
  have hfinal : LoopAroundIf.text.braced (LoopAroundIf.tree.unbraced.map Unbraced.body) =
      "while (a) \x7b\nif (b) \x7b\nc();\x7d\x7d".toList := by decide
  obtain ⟨diagnostics, -, hreports, hruns, hfull, -⟩ :=
    fixesOneByOne_confluent LoopAroundIf.takesOneBody hvariant
  have hlength : diagnostics.length = 2 := hreports.length_eq.symm
  rw [hlength, hfinal] at hfull
  refine ⟨LoopAroundIf.takesOneBody, hvariant, hfull, fun reached hrun => ?_⟩
  obtain ⟨left, -, hsteps, -, hend⟩ := hruns 2 reached hrun
  rw [hlength] at hsteps
  rw [hend (List.length_eq_zero_iff.mp (by omega)), hfinal]

end BraceLint
