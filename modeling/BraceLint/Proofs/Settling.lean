import BraceLint.Proofs.Linted

/-! Texts that fixing leaves as they are. Where passes end well, the last of them has linted the text it
ends with and found nothing that could be fixed; a text like that is what every later run of passes
ends with at once. The rules that can be selected repair whatever they report, so with them nothing
that could be fixed is nothing at all. -/

namespace BraceLint

/-- Linting a text finds nothing that could be fixed. -/
def Settled (parser : Parser) (rules : List Rule) (specifier : Url) (text : Text) : Prop :=
  ∃ diagnostics, lintText parser rules specifier text = .ok diagnostics ∧ isSettled diagnostics = true

section Passes

variable {parser : Parser} {rules : List Rule} {specifier : Url} {text fixed : Text}

/-- One more pass: the text is settled, or its fixes are applied and the passes that are left go on. -/
theorem fixWithin_succ_eq_ok_iff {passes : Nat} :
    fixWithin parser rules specifier (passes + 1) text = .ok fixed ↔
      ∃ diagnostics, lintText parser rules specifier text = .ok diagnostics ∧
        (isSettled diagnostics = true ∧ fixed = text ∨
          isSettled diagnostics = false ∧ ∃ next, applyFirstFixes text diagnostics = .ok next ∧
            fixWithin parser rules specifier passes next = .ok fixed) := by
  rw [fixWithin]
  cases hlint : lintText parser rules specifier text with
  | error error => simp
  | ok diagnostics =>
      cases hsettled : isSettled diagnostics with
      | true => simp [hsettled, @eq_comm _ fixed]
      | false => cases happly : applyFirstFixes text diagnostics <;> simp [hsettled, happly]

theorem settled_of_fixWithin {passes : Nat}
    (h : fixWithin parser rules specifier passes text = .ok fixed) :
    Settled parser rules specifier fixed := by
  induction passes generalizing text with
  | zero => cases h
  | succ passes ih =>
      obtain ⟨diagnostics, hlint, ⟨hsettled, rfl⟩ | ⟨-, next, -, hrest⟩⟩ := fixWithin_succ_eq_ok_iff.mp h
      · exact ⟨diagnostics, hlint, hsettled⟩
      · exact ih hrest

theorem settled_of_fixText (h : fixText parser rules specifier text = .ok fixed) :
    Settled parser rules specifier fixed :=
  settled_of_fixWithin h

theorem Settled.fixText_eq (h : Settled parser rules specifier text) :
    fixText parser rules specifier text = .ok text := by
  obtain ⟨diagnostics, hlint, hsettled⟩ := h
  exact fixWithin_succ_eq_ok_iff.mpr ⟨diagnostics, hlint, Or.inl ⟨hsettled, rfl⟩⟩

/-- Fixing a text that came out of fixing changes nothing. -/
theorem fixText_of_fixText (h : fixText parser rules specifier text = .ok fixed) :
    fixText parser rules specifier fixed = .ok fixed :=
  (settled_of_fixText h).fixText_eq

end Passes

/-! ### Rules that can be selected -/

theorem Selection.rules_eq (selection : Selection) :
    selection.rules = [] ∨ selection.rules = [Curly.fixable] := by
  unfold Selection.rules Selection.allRules
  cases hadmits : selection.admits Curly.code with
  | false => exact Or.inl rfl
  | true => exact Or.inr rfl

/-- What rules that can be selected find in a text: nothing, or what the rule that repairs finds in its
tree. -/
theorem Selection.cases_of_lintText {parser : Parser} {selection : Selection} {specifier : Url} {text : Text}
    {diagnostics : List Diagnostic}
    (h : lintText parser (selection.rules.map Curly.toRule) specifier text = .ok diagnostics) :
    diagnostics = [] ∨ ∃ tree, parser specifier (MediaType.ofUrl specifier) text = .ok tree ∧
      List.Forall₂ (Curly.fixable.Yields specifier text) tree.unbraced diagnostics := by
  obtain ⟨tree, hparse, hlint⟩ := lintText_eq_ok_iff.mp h
  rcases selection.rules_eq with hnone | hcurly
  · rw [hnone] at hlint
    cases hlint
    exact Or.inl rfl
  · rw [hcurly] at hlint
    exact Or.inr ⟨tree, hparse, forall₂_of_lintTree hlint⟩

/-- With rules that can be selected, a settled text has no diagnostics. -/
theorem Settled.lintText_eq {parser : Parser} {selection : Selection} {specifier : Url} {text : Text}
    (h : Settled parser (selection.rules.map Curly.toRule) specifier text) :
    lintText parser (selection.rules.map Curly.toRule) specifier text = .ok [] := by
  obtain ⟨diagnostics, hlint, hsettled⟩ := h
  obtain rfl | ⟨tree, -, hyields⟩ := Selection.cases_of_lintText hlint
  · exact hlint
  · generalize tree.unbraced = statements at hyields
    cases hyields with
    | nil => exact hlint
    | cons hfirst _ =>
        rw [isSettled, List.all_cons, Bool.and_eq_true, List.isEmpty_iff] at hsettled
        exact absurd hsettled.1 (hfirst.fixes_ne_nil rfl)

end BraceLint
