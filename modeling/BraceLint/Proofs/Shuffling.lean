import BraceLint.Proofs.RuleLists
import BraceLint.Proofs.Splicing

/-! Applying the same fixes in another order. Changes are sorted by where they start, and only ties keep
the order in which they came, so the order of diagnostics does not show as long as changes that start
together are the same change. It is so for the rule that asks for braces: bodies that start at one place
are one body, and every repair of a body is the same. -/

namespace BraceLint

namespace Edit

theorem proposed_perm {diagnostics shuffled : List Diagnostic} (h : shuffled.Perm diagnostics) :
    (proposed (shuffled.map Diagnostic.fixes)).Perm (proposed (diagnostics.map Diagnostic.fixes)) :=
  (h.map Diagnostic.fixes).flatMap_right _

/-- Of changes that start together only one may be proposed, though any number of times. -/
def NoTies (changes : List Change) : Prop :=
  ∀ left ∈ changes, ∀ right ∈ changes, left.span.start = right.span.start → left = right

instance (changes : List Change) : Decidable (NoTies changes) :=
  inferInstanceAs (Decidable (∀ left ∈ changes, ∀ right ∈ changes,
    left.span.start = right.span.start → left = right))

theorem sortByStart_eq_of_perm {changes shuffled : List Change} (hties : NoTies changes)
    (hperm : shuffled.Perm changes) : sortByStart shuffled = sortByStart changes := by
  have hboth : (sortByStart shuffled).Perm (sortByStart changes) :=
    (List.mergeSort_perm shuffled _).trans (hperm.trans (List.mergeSort_perm changes _).symm)
  refine hboth.eq_of_pairwise (fun left right hleft hright hle hge => ?_)
    (startSorted_sortByStart shuffled) (startSorted_sortByStart changes)
  exact hties left (hperm.subset (List.mem_mergeSort.mp hleft)) right (List.mem_mergeSort.mp hright)
    (Nat.le_antisymm hle hge)

end Edit

theorem applyFirstFixes_perm (text : Text) {diagnostics shuffled : List Diagnostic}
    (hties : Edit.NoTies (Edit.proposed (diagnostics.map Diagnostic.fixes)))
    (hperm : shuffled.Perm diagnostics) :
    applyFirstFixes text shuffled = applyFirstFixes text diagnostics := by
  rw [applyFirstFixes, applyFirstFixes, Edit.applyFixes, Edit.applyFixes, Edit.keep, Edit.keep,
    Edit.sortByStart_eq_of_perm hties (Edit.proposed_perm hperm)]

/-! ### Diagnostics of the rule -/

theorem Forest.eq_of_start_eq {spans : List Span} (h : Forest spans) {left right : Span}
    (hleft : left ∈ spans) (hright : right ∈ spans) (hstart : left.start = right.start) :
    left = right := by
  by_contra hne
  have hleftNonempty := h.nonempty left hleft
  have hrightNonempty := h.nonempty right hright
  rcases h.nested_or_apart left hleft right hright hne with ⟨-, hlt⟩ | ⟨-, hlt⟩ | hafter | hbefore
  · omega
  · omega
  · omega
  · omega

section Rules

variable {specifier : Url} {text : Text} {statements : List Unbraced} {rules : List Curly}
  {found : List (List Diagnostic)}

/-- Whatever rules propose is to put braces around the text of a body. -/
theorem exists_of_mem_proposed
    (h : List.Forall₂ (fun rule => List.Forall₂ (Curly.Reports rule specifier text) statements)
      rules found) {change : Change}
    (hchange : change ∈ Edit.proposed (found.flatten.map Diagnostic.fixes)) :
    ∃ statement ∈ statements, ∃ inner, text.slice? statement.body = some inner ∧
      change = ⟨statement.body, Curly.brace inner⟩ := by
  rw [Edit.proposed, List.flatMap_map, List.mem_flatMap] at hchange
  obtain ⟨diagnostic, hdiagnostic, hchange⟩ := hchange
  obtain ⟨diagnostics, hdiagnostics, hmem⟩ := List.mem_flatten.mp hdiagnostic
  obtain ⟨rule, -, hreports⟩ := exists_partner h hdiagnostics
  obtain ⟨statement, hstatement, hreport⟩ := exists_partner hreports hmem
  obtain ⟨-, inner, hslice, rfl⟩ := hreport.mem_proposed_iff.mp hchange
  exact ⟨statement, hstatement, inner, hslice, rfl⟩

theorem noTies_of_reports (hlaminar : Laminar text statements)
    (h : List.Forall₂ (fun rule => List.Forall₂ (Curly.Reports rule specifier text) statements)
      rules found) : Edit.NoTies (Edit.proposed (found.flatten.map Diagnostic.fixes)) := by
  intro left hleft right hright hstart
  obtain ⟨first, hfirst, inner, hslice, rfl⟩ := exists_of_mem_proposed h hleft
  obtain ⟨second, hsecond, inner', hslice', rfl⟩ := exists_of_mem_proposed h hright
  have hbody : first.body = second.body := hlaminar.forest.eq_of_start_eq
    (List.mem_map_of_mem hfirst) (List.mem_map_of_mem hsecond) hstart
  have hinner : inner = inner' := by
    rw [hbody, hslice'] at hslice
    exact (Option.some.inj hslice).symm
  rw [hbody, hinner]

end Rules

/-- **The order of diagnostics does not show in the fixed text.** Diagnostics in another order are
applied with the same outcome if no two different changes of their first fixes start together. What any
rules that ask for braces find in a file whose parts are nested in its text is of this kind: applied in
any order, it gives one text. -/
theorem applyFirstFixes_eq_of_perm :
    (∀ (text : Text) (diagnostics shuffled : List Diagnostic), shuffled.Perm diagnostics →
      Edit.NoTies (Edit.proposed (diagnostics.map Diagnostic.fixes)) →
      applyFirstFixes text shuffled = applyFirstFixes text diagnostics) ∧
    ∀ (parser : Parser) (rules : List Curly) (file : SourceFile) (tree : Tree),
      parser file.specifier file.mediaType file.text = .ok tree → tree.WellNested file.text →
      ∃ diagnostics fixed, lintFile parser (rules.map Curly.toRule) file = .ok diagnostics ∧
        ∀ shuffled : List Diagnostic, shuffled.Perm diagnostics →
          applyFirstFixes file.text shuffled = .ok fixed := by
  refine ⟨fun text diagnostics shuffled hperm hties => applyFirstFixes_perm text hties hperm, ?_⟩
  intro parser rules file tree hparse hnested
  obtain ⟨found, hlint, hreports⟩ :=
    exists_lintTree_each_reports rules file.specifier hnested.laminar.isIn
  refine ⟨found.flatten, file.text.braced (outermost (tree.offered rules)), ?_, fun shuffled hperm => ?_⟩
  · simp only [lintFile, hparse, hlint]
  · rw [applyFirstFixes_perm file.text (noTies_of_reports hnested.laminar hreports) hperm]
    exact applyFirstFixes_offered hnested.laminar hreports

/-- An insertion and a replacement at one place are such a tie: which of them comes first decides
whether the insertion is kept. -/
example : applyFirstFixes AnyFixes.text AnyFixes.diagnostics = .ok "aX>bZ".toList ∧
    applyFirstFixes AnyFixes.text AnyFixes.diagnostics.reverse = .ok "a<X>bZ".toList := by
  cbv

/-- Two of the diagnostics, which have no ties. -/
def AnyFixes.untied : List Diagnostic :=
  [AnyFixes.offering [⟨"", [⟨⟨1, 3⟩, ['X']⟩, ⟨⟨9, 12⟩, ['Z']⟩]⟩],
    AnyFixes.offering [⟨"", [⟨⟨3, 3⟩, ['>']⟩]⟩]]

/-- What a rule that repairs, one that only reports and one that repairs find in the loop. -/
def LoopAroundIf.thrice : List Diagnostic :=
  [loop, branch, { loop with fixes := [] }, { branch with fixes := [] }, loop, branch]

/-- What three rules find in the loop around an `if`, in any order, puts braces around the loop's body. -/
theorem loopAroundIf_shuffled :
    (Edit.NoTies (Edit.proposed (AnyFixes.untied.map Diagnostic.fixes)) ∧
      applyFirstFixes AnyFixes.text AnyFixes.untied.reverse =
        applyFirstFixes AnyFixes.text AnyFixes.untied) ∧
    LoopAroundIf.tree.WellNested LoopAroundIf.text ∧
    lintFile programParser ([Curly.fixable, Curly.reportOnly, Curly.fixable].map Curly.toRule)
        (SourceFile.ofUrl SourceFile.exampleUrl LoopAroundIf.text) = .ok LoopAroundIf.thrice ∧
    ∀ shuffled : List Diagnostic, shuffled.Perm LoopAroundIf.thrice →
      applyFirstFixes LoopAroundIf.text shuffled = .ok "while (a) \x7b\nif (b) c();\x7d".toList := by
  have hties : Edit.NoTies (Edit.proposed (AnyFixes.untied.map Diagnostic.fixes)) := by decide
  have hnested : LoopAroundIf.tree.WellNested LoopAroundIf.text := by decide
  have hfound : lintTree ([Curly.fixable, Curly.reportOnly, Curly.fixable].map Curly.toRule)
      SourceFile.exampleUrl LoopAroundIf.text LoopAroundIf.tree = .ok LoopAroundIf.thrice := by
    decide +kernel
  obtain ⟨own, hown, -, hfixed⟩ := exists_lintTree_offered [Curly.fixable, Curly.reportOnly, Curly.fixable]
    SourceFile.exampleUrl hnested
  obtain rfl := Except.ok.inj (hfound.symm.trans hown)
  obtain ⟨hany, hrules⟩ := applyFirstFixes_eq_of_perm
  obtain ⟨diagnostics, fixed, hlint, hshuffled⟩ := hrules programParser
    [Curly.fixable, Curly.reportOnly, Curly.fixable]
    (SourceFile.ofUrl SourceFile.exampleUrl LoopAroundIf.text) LoopAroundIf.tree LoopAroundIf.parse hnested
  have hthrice : diagnostics = LoopAroundIf.thrice := by
    simp only [lintFile, SourceFile.ofUrl, LoopAroundIf.parse, hfound, Except.ok.injEq] at hlint
    exact hlint.symm
  subst hthrice
  have htext : fixed = "while (a) \x7b\nif (b) c();\x7d".toList :=
    Except.ok.inj ((hshuffled _ (List.Perm.refl _)).symm.trans (hfixed.trans (by decide +kernel)))
  rw [htext] at hshuffled
  exact ⟨⟨hties, hany _ _ _ (List.reverse_perm _) hties⟩, hnested, hlint, hshuffled⟩

end BraceLint
