import BraceLint.Proofs.Outcomes
import BraceLint.Proofs.Passes

/-! Lists of rules that ask for braces, with and without repairs, in any order and any number of times.
What they find is told rule by rule, and every rule tells the same but for its repairs. Equal repairs
are one repair, so all that shows in a fixed text is whether a rule of the list repairs at all. -/

namespace BraceLint

/-- A diagnostic without what could be done about it. -/
def Diagnostic.withoutFixes (diagnostic : Diagnostic) : Diagnostic :=
  { diagnostic with fixes := [] }

/-! ### What each rule finds -/

theorem lintTree_eq_flatten (rules : List Curly) (specifier : Url) (text : Text) (tree : Tree) :
    lintTree (rules.map Curly.toRule) specifier text tree =
      (rules.mapM fun rule => lintTree [rule.toRule] specifier text tree).map List.flatten := by
  simp only [lintTree_singleton]
  rw [lintTree, lintEach, List.mapM_map]
  rfl

section Blocks

variable {rule other : Curly} {specifier : Url} {text : Text}

theorem Finding.locate_withoutFixes {found : Finding} {diagnostic : Diagnostic}
    (h : found.locate specifier text = .ok diagnostic) :
    Finding.locate specifier text { found with fixes := [] } = .ok diagnostic.withoutFixes := by
  obtain ⟨start, hstart, hrest⟩ := bind_eq_ok_iff.mp h
  obtain ⟨stop, hstop, hpure⟩ := bind_eq_ok_iff.mp hrest
  cases hpure
  rw [Finding.locate, hstart, hstop]
  rfl

theorem Curly.finding_withoutFixes {statement : Unbraced} {found : Finding}
    (h : rule.finding text statement = .ok found) :
    { found with fixes := [] } = Finding.mk statement.span code (message statement.kind) (some hint) [] := by
  unfold finding at h
  split_ifs at h with hfix
  · obtain ⟨fixes, -, hpure⟩ := bind_eq_ok_iff.mp h
    cases hpure
    rfl
  · cases h
    rfl

theorem Curly.Yields.withoutFixes_eq {statement : Unbraced} {first second : Diagnostic}
    (hfirst : rule.Yields specifier text statement first)
    (hsecond : other.Yields specifier text statement second) :
    first.withoutFixes = second.withoutFixes := by
  obtain ⟨found, hfound, hlocate⟩ := hfirst
  obtain ⟨found', hfound', hlocate'⟩ := hsecond
  have hleft := Finding.locate_withoutFixes hlocate
  have hright := Finding.locate_withoutFixes hlocate'
  rw [Curly.finding_withoutFixes hfound] at hleft
  rw [Curly.finding_withoutFixes hfound'] at hright
  exact Except.ok.inj (hleft.symm.trans hright)

theorem map_withoutFixes_eq {statements : List Unbraced} {first second : List Diagnostic}
    (hfirst : List.Forall₂ (rule.Yields specifier text) statements first)
    (hsecond : List.Forall₂ (other.Yields specifier text) statements second) :
    first.map Diagnostic.withoutFixes = second.map Diagnostic.withoutFixes := by
  induction hfirst generalizing second with
  | nil =>
      cases hsecond
      rfl
  | cons hhead htail ih =>
      cases hsecond with
      | cons hhead' htail' => rw [List.map_cons, List.map_cons, hhead.withoutFixes_eq hhead', ih htail']

end Blocks

/-! ### What the repairs come to -/

/-- The bodies that rules offer to put in braces. -/
def Tree.offered (tree : Tree) (rules : List Curly) : List Span :=
  if Curly.fixable ∈ rules then tree.unbraced.map Unbraced.body else []

section Repairs

variable {rules : List Curly} {specifier : Url} {text : Text} {tree : Tree}
  {found : List (List Diagnostic)}

theorem exists_report
    (h : List.Forall₂ (fun rule => List.Forall₂ (Curly.Reports rule specifier text) tree.unbraced)
      rules found) {diagnostic : Diagnostic} (hdiagnostic : diagnostic ∈ found.flatten) :
    ∃ rule ∈ rules, ∃ statement ∈ tree.unbraced, rule.Reports specifier text statement diagnostic := by
  obtain ⟨block, hblock, hmem⟩ := List.mem_flatten.mp hdiagnostic
  obtain ⟨rule, hrule, hreports⟩ := exists_partner h hblock
  exact ⟨rule, hrule, exists_partner hreports hmem⟩

theorem exists_diagnostic
    (h : List.Forall₂ (fun rule => List.Forall₂ (Curly.Reports rule specifier text) tree.unbraced)
      rules found) {rule : Curly} (hrule : rule ∈ rules) {statement : Unbraced}
    (hstatement : statement ∈ tree.unbraced) :
    ∃ diagnostic ∈ found.flatten, rule.Reports specifier text statement diagnostic := by
  obtain ⟨block, hblock, hreports⟩ := exists_partner h.flip hrule
  obtain ⟨diagnostic, hdiagnostic, hreport⟩ := exists_partner hreports.flip hstatement
  exact ⟨diagnostic, List.mem_flatten.mpr ⟨block, hblock, hdiagnostic⟩, hreport⟩

theorem Curly.Reports.fixes_ne_nil_iff {rule : Curly} {statement : Unbraced} {diagnostic : Diagnostic}
    (h : rule.Reports specifier text statement diagnostic) :
    diagnostic.fixes ≠ [] ↔ rule = Curly.fixable := by
  obtain ⟨inner, -, hfixes⟩ := h.exists_fixes
  obtain ⟨fix⟩ := rule
  cases fix <;> simp [hfixes, Curly.fixable]

theorem Tree.mem_offered_iff {span : Span} :
    span ∈ tree.offered rules ↔
      Curly.fixable ∈ rules ∧ ∃ statement ∈ tree.unbraced, statement.body = span := by
  rw [Tree.offered]
  split_ifs with hfixable <;> simp [hfixable]

theorem applyFirstFixes_offered (hlaminar : Laminar text tree.unbraced)
    (h : List.Forall₂ (fun rule => List.Forall₂ (Curly.Reports rule specifier text) tree.unbraced)
      rules found) :
    applyFirstFixes text found.flatten = .ok (text.braced (outermost (tree.offered rules))) := by
  have hnodup : (tree.offered rules).Nodup := by
    rw [Tree.offered]
    split_ifs
    · exact hlaminar.nodup_bodies
    · exact List.nodup_nil
  have hdrawn : ∀ diagnostic ∈ found.flatten, ∃ rule : Curly, ∃ statement ∈ tree.unbraced,
      rule.Reports specifier text statement diagnostic := by
    intro diagnostic hdiagnostic
    obtain ⟨rule, -, hreports⟩ := exists_report h hdiagnostic
    exact ⟨rule, hreports⟩
  refine applyFirstFixes_eq hlaminar hdrawn hnodup fun span => ?_
  rw [Tree.mem_offered_iff]
  constructor
  · rintro ⟨hfixable, statement, hstatement, hbody⟩
    obtain ⟨diagnostic, hdiagnostic, hreport⟩ := exists_diagnostic h hfixable hstatement
    exact ⟨diagnostic, hdiagnostic, statement, hstatement, hreport, hbody⟩
  · rintro ⟨diagnostic, hdiagnostic, statement, hstatement, hreport, hbody⟩
    obtain ⟨rule, hrule, _, _, hreport'⟩ := exists_report h hdiagnostic
    rw [hreport'.fixes_ne_nil_iff.mp (hreport.fixes_ne_nil_iff.mpr rfl)] at hrule
    exact ⟨hrule, statement, hstatement, hbody⟩

theorem isSettled_flatten
    (h : List.Forall₂ (fun rule => List.Forall₂ (Curly.Reports rule specifier text) tree.unbraced)
      rules found) :
    isSettled found.flatten = decide (tree.offered rules = []) := by
  rw [← Bool.not_inj_iff, ← decide_not, Bool.eq_iff_iff, Bool.not_eq_true', isSettled_eq_false_iff,
    decide_eq_true_eq]
  constructor
  · rintro ⟨diagnostic, hdiagnostic, hfixes⟩
    obtain ⟨rule, hrule, statement, hstatement, hreport⟩ := exists_report h hdiagnostic
    rw [hreport.fixes_ne_nil_iff.mp hfixes] at hrule
    exact List.ne_nil_of_mem (Tree.mem_offered_iff.mpr ⟨hrule, statement, hstatement, rfl⟩)
  · intro hne
    obtain ⟨span, hspan⟩ := List.exists_mem_of_ne_nil _ hne
    obtain ⟨hfixable, statement, hstatement, -⟩ := Tree.mem_offered_iff.mp hspan
    obtain ⟨diagnostic, hdiagnostic, hreport⟩ := exists_diagnostic h hfixable hstatement
    exact ⟨diagnostic, hdiagnostic, hreport.fixes_ne_nil_iff.mpr rfl⟩

/-- What rules find in a program whose parts are nested in its text, and what their repairs make of
it, told by the bodies they offer to put in braces. -/
theorem exists_lintTree_offered (rules : List Curly) (specifier : Url) (h : tree.WellNested text) :
    ∃ diagnostics, lintTree (rules.map Curly.toRule) specifier text tree = .ok diagnostics ∧
      isSettled diagnostics = decide (tree.offered rules = []) ∧
      applyFirstFixes text diagnostics = .ok (text.braced (outermost (tree.offered rules))) := by
  obtain ⟨found, hlint, hreports⟩ := exists_lintTree_each_reports rules specifier h.laminar.isIn
  exact ⟨found.flatten, hlint, isSettled_flatten hreports, applyFirstFixes_offered h.laminar hreports⟩

end Repairs

/-! ### Fixing with a list of rules -/

section Fixing

variable {parser : Parser} {rules : List Curly} {specifier : Url} {text : Text}

theorem Tree.offered_eq_of_mem {tree : Tree} (h : Curly.fixable ∈ rules) :
    tree.offered rules = tree.offered [Curly.fixable] := by
  rw [Tree.offered, Tree.offered, if_pos h, if_pos List.mem_cons_self]

/-- A pass on a program whose parts are nested in its text. -/
theorem pass_eq_braced (rules : List Curly) {tree : Tree}
    (hparse : parser specifier (MediaType.ofUrl specifier) text = .ok tree)
    (hnested : tree.WellNested text) :
    pass parser (rules.map Curly.toRule) specifier text =
      .ok (text.braced (outermost (tree.offered rules))) := by
  obtain ⟨diagnostics, hlint, -, happly⟩ := exists_lintTree_offered rules specifier hnested
  rw [pass, lintText_eq_ok_iff.mpr ⟨tree, hparse, hlint⟩]
  exact mapError_eq_ok_iff.mpr happly

theorem fixWithin_eq_of_mem {passes : Nat} (hmem : Curly.fixable ∈ rules)
    (hnested : ∀ count < passes, ∀ reached tree,
      passed parser [Curly.fixable.toRule] specifier count text = .ok reached →
      parser specifier (MediaType.ofUrl specifier) reached = .ok tree → tree.WellNested reached) :
    fixWithin parser (rules.map Curly.toRule) specifier passes text =
      fixWithin parser [Curly.fixable.toRule] specifier passes text := by
  induction passes generalizing text with
  | zero => rfl
  | succ passes ih =>
      cases hparse : parser specifier (MediaType.ofUrl specifier) text with
      | error error =>
          simp only [fixWithin, lintText_eq_malformed_iff.mpr hparse]
      | ok tree =>
          have hwell := hnested 0 (Nat.succ_pos passes) text tree rfl hparse
          obtain ⟨found, hlint, hsettled, happly⟩ := exists_lintTree_offered rules specifier hwell
          obtain ⟨own, hlintOwn, hsettledOwn, happlyOwn⟩ :=
            exists_lintTree_offered [Curly.fixable] specifier hwell
          rw [Tree.offered_eq_of_mem hmem] at hsettled happly
          have hfound := lintText_eq_ok_iff.mpr ⟨tree, hparse, hlint⟩
          have hown : lintText parser [Curly.fixable.toRule] specifier text = .ok own :=
            lintText_eq_ok_iff.mpr ⟨tree, hparse, hlintOwn⟩
          have hpass : pass parser [Curly.fixable.toRule] specifier text = _ :=
            pass_eq_braced [Curly.fixable] hparse hwell
          have hrest := ih fun count hlt reached other hpassed =>
            hnested (count + 1) (Nat.succ_lt_succ hlt) reached other
              (bind_eq_ok_iff.mpr ⟨_, hpass, hpassed⟩)
          simp only [fixWithin, hfound, hown, hsettled, hsettledOwn, happly, happlyOwn, hrest]

end Fixing

/-- **Rules that ask for braces compose.** What a list of them finds is what each of them finds, one
after the other, and without the repairs all of them find the same. What the repairs make of a program
depends only on whether there are any: with a rule that repairs it is what this rule makes of it alone,
with no such rule it is the program itself, and fixing with a list that has such a rule is fixing with
this rule alone. -/
theorem lint_and_fix_by_rules (parser : Parser) (rules : List Curly) (specifier : Url) (text : Text) :
    (∀ tree, lintTree (rules.map Curly.toRule) specifier text tree =
      (rules.mapM fun rule => lintTree [rule.toRule] specifier text tree).map List.flatten) ∧
    (∀ tree (rule other : Curly) (found found' : List Diagnostic),
      lintTree [rule.toRule] specifier text tree = .ok found →
      lintTree [other.toRule] specifier text tree = .ok found' →
      found.map Diagnostic.withoutFixes = found'.map Diagnostic.withoutFixes) ∧
    (∀ tree : Tree, (∀ node ∈ tree.nodes, node.span.IsIn text) → ∀ rule : Curly,
      ∃ found, lintTree [rule.toRule] specifier text tree = .ok found) ∧
    (∀ tree : Tree, tree.WellNested text → ∃ found own fixed,
      lintTree (rules.map Curly.toRule) specifier text tree = .ok found ∧
      lintTree [Curly.fixable.toRule] specifier text tree = .ok own ∧
      applyFirstFixes text own = .ok fixed ∧
      applyFirstFixes text found = .ok (if Curly.fixable ∈ rules then fixed else text)) ∧
    (Curly.fixable ∈ rules →
      (∀ count ≤ 15, ∀ reached tree,
        passed parser [Curly.fixable.toRule] specifier count text = .ok reached →
        parser specifier (MediaType.ofUrl specifier) reached = .ok tree → tree.WellNested reached) →
      fixText parser (rules.map Curly.toRule) specifier text =
        fixText parser [Curly.fixable.toRule] specifier text) := by
  refine ⟨lintTree_eq_flatten rules specifier text, ?_, ?_, ?_, ?_⟩
  · intro tree rule other found found' hfound hfound'
    exact map_withoutFixes_eq (forall₂_of_lintTree hfound) (forall₂_of_lintTree hfound')
  · intro tree hspans rule
    obtain ⟨found, hfound, -⟩ := exists_lintTree_reports rule specifier (Tree.unbraced_isIn hspans)
    exact ⟨found, hfound⟩
  · intro tree hnested
    obtain ⟨found, hfound, -, happly⟩ := exists_lintTree_offered rules specifier hnested
    obtain ⟨own, hown, -, happlyOwn⟩ := exists_lintTree_offered [Curly.fixable] specifier hnested
    refine ⟨found, own, _, hfound, hown, happlyOwn, ?_⟩
    split_ifs with hmem
    · rw [happly, Tree.offered_eq_of_mem hmem]
    · rw [happly, Tree.offered, if_neg hmem]
      exact congrArg Except.ok (Text.braced_nil text)
  · intro hmem hnested
    exact fixWithin_eq_of_mem hmem fun count hlt => hnested count (Nat.lt_succ_iff.mp hlt)

/-- The texts that fixing the loop around an `if` goes through are nested programs: the outer body gets
its braces, then the inner one, and then nothing changes any more. -/
theorem LoopAroundIf.wellNested_of_passed {count : Nat} {reached : Text} {found : Tree}
    (hpassed : passed programParser [Curly.fixable.toRule] SourceFile.exampleUrl count text =
      .ok reached)
    (hparse : programParser SourceFile.exampleUrl (MediaType.ofUrl SourceFile.exampleUrl) reached =
      .ok found) :
    found.WellNested reached := by
  let stages : List (List Span) := [[], [⟨10, 21⟩], [⟨10, 21⟩, ⟨17, 21⟩]]
  have hstage : ∀ bodies ∈ stages, bodies.Sublist (tree.unbraced.map Unbraced.body) ∧
      (tree.braced bodies).WellNested (text.braced bodies) ∧ ∃ next ∈ stages,
        (text.braced bodies).braced (outermost ((tree.braced bodies).offered [Curly.fixable])) =
          text.braced next := by
    decide +kernel
  have hreached : ∀ count, ∀ bodies ∈ stages, ∀ reached,
      passed programParser [Curly.fixable.toRule] SourceFile.exampleUrl count (text.braced bodies) =
        .ok reached →
      ∃ last ∈ stages, reached = text.braced last := by
    intro count
    induction count with
    | zero =>
        intro bodies hbodies reached hpassed
        cases hpassed
        exact ⟨bodies, hbodies, rfl⟩
    | succ count ih =>
        intro bodies hbodies reached hpassed
        obtain ⟨hsub, hnested, next, hnext, heq⟩ := hstage bodies hbodies
        have hpass : pass programParser [Curly.fixable.toRule] SourceFile.exampleUrl
            (text.braced bodies) = .ok (text.braced next) := by
          rw [← heq]
          exact pass_eq_braced [Curly.fixable] (takesBraces.rereads bodies hsub) hnested
        rw [passed, hpass] at hpassed
        exact ih next hnext reached hpassed
  rw [← Text.braced_nil text] at hpassed
  obtain ⟨last, hlast, rfl⟩ := hreached count [] (List.mem_cons_self) reached hpassed
  obtain ⟨hsub, hnested, -⟩ := hstage last hlast
  rw [takesBraces.rereads last hsub] at hparse
  cases hparse
  exact hnested

theorem loopAroundIf_by_rules :
    LoopAroundIf.tree.WellNested LoopAroundIf.text ∧
    lintTree ([Curly.reportOnly, Curly.fixable, Curly.fixable].map Curly.toRule)
        SourceFile.exampleUrl LoopAroundIf.text LoopAroundIf.tree =
      .ok [{ LoopAroundIf.loop with fixes := [] }, { LoopAroundIf.branch with fixes := [] },
        LoopAroundIf.loop, LoopAroundIf.branch, LoopAroundIf.loop, LoopAroundIf.branch] ∧
    applyFirstFixes LoopAroundIf.text [LoopAroundIf.loop, LoopAroundIf.branch] =
      .ok "while (a) \x7b\nif (b) c();\x7d".toList ∧
    applyFirstFixes LoopAroundIf.text [{ LoopAroundIf.loop with fixes := [] },
        { LoopAroundIf.branch with fixes := [] }, LoopAroundIf.loop, LoopAroundIf.branch,
        LoopAroundIf.loop, LoopAroundIf.branch] = .ok "while (a) \x7b\nif (b) c();\x7d".toList ∧
    fixText programParser ([Curly.reportOnly, Curly.fixable, Curly.fixable].map Curly.toRule)
        SourceFile.exampleUrl LoopAroundIf.text =
      fixText programParser [Curly.fixable.toRule] SourceFile.exampleUrl LoopAroundIf.text := by
  have hnested : LoopAroundIf.tree.WellNested LoopAroundIf.text := by decide
  have hthree : lintTree ([Curly.reportOnly, Curly.fixable, Curly.fixable].map Curly.toRule)
      SourceFile.exampleUrl LoopAroundIf.text LoopAroundIf.tree =
        .ok [{ LoopAroundIf.loop with fixes := [] }, { LoopAroundIf.branch with fixes := [] },
          LoopAroundIf.loop, LoopAroundIf.branch, LoopAroundIf.loop, LoopAroundIf.branch] := by
    decide +kernel
  have hone : lintTree [Curly.fixable.toRule] SourceFile.exampleUrl LoopAroundIf.text
      LoopAroundIf.tree = .ok [LoopAroundIf.loop, LoopAroundIf.branch] := by
    decide +kernel
  obtain ⟨_, hoffered, -, hbraced⟩ :=
    exists_lintTree_offered [Curly.fixable] SourceFile.exampleUrl hnested
  obtain rfl := Except.ok.inj (hone.symm.trans hoffered)
  have hfixed : applyFirstFixes LoopAroundIf.text [LoopAroundIf.loop, LoopAroundIf.branch] =
      .ok "while (a) \x7b\nif (b) c();\x7d".toList := hbraced.trans (by decide +kernel)
  obtain ⟨-, -, -, happly, hfix⟩ := lint_and_fix_by_rules programParser
    [Curly.reportOnly, Curly.fixable, Curly.fixable] SourceFile.exampleUrl LoopAroundIf.text
  obtain ⟨found, own, fixed, hfound, hown, hownFixed, hfoundFixed⟩ := happly LoopAroundIf.tree hnested
  obtain rfl := Except.ok.inj (hthree.symm.trans hfound)
  obtain rfl := Except.ok.inj (hone.symm.trans hown)
  obtain rfl := Except.ok.inj (hfixed.symm.trans hownFixed)
  exact ⟨hnested, hfound, hownFixed, hfoundFixed,
    hfix (by decide) fun _ _ _ _ => LoopAroundIf.wellNested_of_passed⟩

end BraceLint
