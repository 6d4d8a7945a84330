import BraceLint.Proofs.Settling

/-! What fixing comes to, told by passes. A pass on its own lints a text and applies all fixes once,
whether or not there are any. Fixing takes pass after pass as long as there is something to fix, so it
ends at the first text where there is nothing to fix or where a pass fails, or else with the last pass
it may take. Nothing is asked of the parser or of the rules. -/

namespace BraceLint

section Outcomes

variable (parser : Parser) (rules : List Rule) (specifier : Url)

/-- A pass: all fixes of what linting finds are applied once. -/
def pass (text : Text) : Except FixError Text := do
  let diagnostics ← (lintText parser rules specifier text).mapError .lint
  (applyFirstFixes text diagnostics).mapError .edit

/-- The text after a number of passes. -/
def passed : Nat → Text → Except FixError Text
  | 0, text => .ok text
  | count + 1, text => pass parser rules specifier text >>= passed count

/-- Linting a text finds something that could be fixed. -/
def Fixable (text : Text) : Prop :=
  ∃ diagnostics, lintText parser rules specifier text = .ok diagnostics ∧
    ∃ diagnostic ∈ diagnostics, diagnostic.fixes ≠ []

/-- A number of passes lead from one text to another, and at every text on the way there was
something to fix. -/
structure LeadsTo (count : Nat) (text reached : Text) : Prop where
  passed_eq : passed parser rules specifier count text = .ok reached
  fixable : ∀ index < count, ∃ earlier, passed parser rules specifier index text = .ok earlier ∧
    Fixable parser rules specifier earlier

/-- How a pass can be the last one before passes are used up. -/
inductive Ends (text : Text) : Except FixError Text → Prop where
  | settled (hsettled : Settled parser rules specifier text) : Ends text (.ok text)
  | unlinted {error : LintError} (hlint : lintText parser rules specifier text = .error error) :
      Ends text (.error (.lint error))
  | unedited {diagnostics : List Diagnostic} {failure : Edit.Failure}
      (hlint : lintText parser rules specifier text = .ok diagnostics)
      (hfixable : ∃ diagnostic ∈ diagnostics, diagnostic.fixes ≠ [])
      (happly : applyFirstFixes text diagnostics = .error failure) : Ends text (.error (.edit failure))

instance (text : Text) : Decidable (Fixable parser rules specifier text) :=
  match hlint : lintText parser rules specifier text with
  | .error _ => .isFalse fun ⟨_, hfound, _⟩ => nomatch hlint.symm.trans hfound
  | .ok diagnostics =>
    decidable_of_iff (∃ diagnostic ∈ diagnostics, diagnostic.fixes ≠ []) (by simp [Fixable, hlint])

variable {parser rules specifier} {text next reached fixed : Text} {result : Except FixError Text}

/-! ### One pass -/

theorem isSettled_eq_false_iff {diagnostics : List Diagnostic} :
    isSettled diagnostics = false ↔ ∃ diagnostic ∈ diagnostics, diagnostic.fixes ≠ [] := by
  simp [isSettled]

theorem Ends.fixWithin_succ (h : Ends parser rules specifier text result) (passes : Nat) :
    fixWithin parser rules specifier (passes + 1) text = result := by
  cases h with
  | settled hsettled =>
      obtain ⟨diagnostics, hlint, hall⟩ := hsettled
      simp only [fixWithin, hlint, hall, if_true]
  | unlinted hlint => simp only [fixWithin, hlint]
  | unedited hlint hfixable happly =>
      simp only [fixWithin, hlint, isSettled_eq_false_iff.mpr hfixable, Bool.false_eq_true, if_false,
        happly]

theorem fixWithin_succ_of_pass (hfixable : Fixable parser rules specifier text)
    (hpass : pass parser rules specifier text = .ok next) (passes : Nat) :
    fixWithin parser rules specifier (passes + 1) text = fixWithin parser rules specifier passes next := by
  obtain ⟨diagnostics, hlint, hfixes⟩ := hfixable
  obtain ⟨found, hfound, happly⟩ := bind_eq_ok_iff.mp hpass
  rw [mapError_eq_ok_iff] at hfound happly
  cases hfound.symm.trans hlint
  simp only [fixWithin, hlint, isSettled_eq_false_iff.mpr hfixes, Bool.false_eq_true, if_false, happly]

/-- Fixing stops at a text, or there is something to fix and a pass goes on to the next text. -/
theorem ends_or_pass (parser : Parser) (rules : List Rule) (specifier : Url) (text : Text) :
    (∃ result, Ends parser rules specifier text result) ∨
      ∃ next, Fixable parser rules specifier text ∧ pass parser rules specifier text = .ok next := by
  cases hlint : lintText parser rules specifier text with
  | error error => exact Or.inl ⟨_, .unlinted hlint⟩
  | ok diagnostics =>
      cases hsettled : isSettled diagnostics with
      | true => exact Or.inl ⟨_, .settled ⟨diagnostics, hlint, hsettled⟩⟩
      | false =>
          have hfixes := isSettled_eq_false_iff.mp hsettled
          cases happly : applyFirstFixes text diagnostics with
          | error failure => exact Or.inl ⟨_, .unedited hlint hfixes happly⟩
          | ok next =>
              refine Or.inr ⟨next, ⟨diagnostics, hlint, hfixes⟩, ?_⟩
              rw [pass, hlint]
              exact mapError_eq_ok_iff.mpr happly

/-! ### A run of passes -/

theorem LeadsTo.zero : LeadsTo parser rules specifier 0 text text :=
  ⟨rfl, fun _ hindex => absurd hindex (Nat.not_lt_zero _)⟩

theorem leadsTo_succ_iff {count : Nat} :
    LeadsTo parser rules specifier (count + 1) text reached ↔ Fixable parser rules specifier text ∧
      ∃ next, pass parser rules specifier text = .ok next ∧
        LeadsTo parser rules specifier count next reached := by
  constructor
  · rintro ⟨hpassed, hfixable⟩
    obtain ⟨next, hpass, hrest⟩ := bind_eq_ok_iff.mp hpassed
    obtain ⟨_, hfirst, hhere⟩ := hfixable 0 (Nat.succ_pos count)
    cases hfirst
    refine ⟨hhere, next, hpass, hrest, fun index hindex => ?_⟩
    obtain ⟨earlier, hearlier, hthere⟩ := hfixable (index + 1) (Nat.succ_lt_succ hindex)
    rw [passed, hpass] at hearlier
    exact ⟨earlier, hearlier, hthere⟩
  · rintro ⟨hhere, next, hpass, hpassed, hfixable⟩
    refine ⟨bind_eq_ok_iff.mpr ⟨next, hpass, hpassed⟩, fun index hindex => ?_⟩
    cases index with
    | zero => exact ⟨text, rfl, hhere⟩
    | succ index =>
        obtain ⟨earlier, hearlier, hthere⟩ := hfixable index (Nat.lt_of_succ_lt_succ hindex)
        exact ⟨earlier, bind_eq_ok_iff.mpr ⟨next, hpass, hearlier⟩, hthere⟩

theorem LeadsTo.fixWithin_add {count : Nat} (h : LeadsTo parser rules specifier count text reached)
    (passes : Nat) : fixWithin parser rules specifier (count + passes) text =
      fixWithin parser rules specifier passes reached := by
  induction count generalizing text with
  | zero =>
      cases h.passed_eq
      rw [Nat.zero_add]
  | succ count ih =>
      obtain ⟨hfixable, next, hpass, hrest⟩ := leadsTo_succ_iff.mp h
      rw [Nat.succ_add, fixWithin_succ_of_pass hfixable hpass, ih hrest]

/-- Passes go on to a text where fixing stops, or until they are used up. -/
theorem exists_leadsTo (parser : Parser) (rules : List Rule) (specifier : Url) (passes : Nat)
    (text : Text) :
    (∃ count < passes, ∃ reached result, LeadsTo parser rules specifier count text reached ∧
      Ends parser rules specifier reached result) ∨
      ∃ reached, LeadsTo parser rules specifier passes text reached := by
  induction passes generalizing text with
  | zero => exact Or.inr ⟨text, LeadsTo.zero⟩
  | succ passes ih =>
      rcases ends_or_pass parser rules specifier text with ⟨result, hends⟩ | ⟨next, hfixable, hpass⟩
      · exact Or.inl ⟨0, Nat.succ_pos passes, text, result, LeadsTo.zero, hends⟩
      · rcases ih next with ⟨count, hlt, reached, result, hleads, hends⟩ | ⟨reached, hleads⟩
        · exact Or.inl ⟨count + 1, Nat.succ_lt_succ hlt, reached, result,
            leadsTo_succ_iff.mpr ⟨hfixable, next, hpass, hleads⟩, hends⟩
        · exact Or.inr ⟨reached, leadsTo_succ_iff.mpr ⟨hfixable, next, hpass, hleads⟩⟩

theorem fixWithin_eq_iff {passes : Nat} :
    fixWithin parser rules specifier passes text = result ↔
      (∃ count < passes, ∃ reached, LeadsTo parser rules specifier count text reached ∧
        Ends parser rules specifier reached result) ∨
      result = .error .unsettled ∧ ∃ reached, LeadsTo parser rules specifier passes text reached := by
  have hends : ∀ {count reached result}, count < passes →
      LeadsTo parser rules specifier count text reached →
      Ends parser rules specifier reached result →
      fixWithin parser rules specifier passes text = result := by
    intro count reached result hlt hleads hends
    obtain ⟨more, rfl⟩ := Nat.exists_eq_add_of_lt hlt
    rw [Nat.add_assoc, hleads.fixWithin_add]
    exact hends.fixWithin_succ more
  have hused : ∀ {reached}, LeadsTo parser rules specifier passes text reached →
      fixWithin parser rules specifier passes text = .error .unsettled :=
    fun hleads => hleads.fixWithin_add 0
  constructor
  · intro hresult
    rcases exists_leadsTo parser rules specifier passes text with
      ⟨count, hlt, reached, other, hleads, hother⟩ | ⟨reached, hleads⟩
    · rw [hends hlt hleads hother] at hresult
      subst hresult
      exact Or.inl ⟨count, hlt, reached, hleads, hother⟩
    · rw [hused hleads] at hresult
      exact Or.inr ⟨hresult.symm, reached, hleads⟩
  · rintro (⟨count, hlt, reached, hleads, hresult⟩ | ⟨rfl, reached, hleads⟩)
    · exact hends hlt hleads hresult
    · exact hused hleads

theorem ends_ok_iff : Ends parser rules specifier reached (.ok fixed) ↔
    reached = fixed ∧ Settled parser rules specifier fixed := by
  constructor
  · rintro (⟨hsettled⟩ | _ | _)
    exact ⟨rfl, hsettled⟩
  · rintro ⟨rfl, hsettled⟩
    exact .settled hsettled

theorem lintText_eq_malformed_iff {error : SyntaxError} :
    lintText parser rules specifier text = .error (.malformed error) ↔
      parser specifier (MediaType.ofUrl specifier) text = .error error := by
  unfold lintText lintFile SourceFile.ofUrl
  cases hparse : parser specifier (MediaType.ofUrl specifier) text with
  | error other => simp
  | ok tree => cases hlint : lintTree rules specifier text tree <;> simp [hlint]

theorem ends_malformed_iff {error : SyntaxError} :
    Ends parser rules specifier reached (.error (.lint (.malformed error))) ↔
      parser specifier (MediaType.ofUrl specifier) reached = .error error := by
  rw [← lintText_eq_malformed_iff]
  constructor
  · rintro (_ | hlint | _)
    exact hlint
  · exact fun hlint => .unlinted hlint

theorem not_ends_unsettled : ¬Ends parser rules specifier reached (.error .unsettled) :=
  nofun

end Outcomes

/-- **Fixing is what its passes come to.** It gives a text exactly when at most fifteen passes lead to
it, each of them with something to fix, and nothing is left to fix there; it fails with a syntax error
exactly when that is what at most fifteen such passes lead to; and the passes are used up exactly when
all sixteen of them had something to fix, whatever the last one wrote. So fixing what has been fixed
changes nothing, and neither does fixing a text without anything to fix. -/
theorem fixText_eq_iff_leadsTo (parser : Parser) (rules : List Rule) (specifier : Url) (text : Text) :
    (∀ fixed, fixText parser rules specifier text = .ok fixed ↔
      ∃ count ≤ 15, LeadsTo parser rules specifier count text fixed ∧
        Settled parser rules specifier fixed) ∧
    (∀ error, fixText parser rules specifier text = .error (.lint (.malformed error)) ↔
      ∃ count ≤ 15, ∃ reached, LeadsTo parser rules specifier count text reached ∧
        parser specifier (MediaType.ofUrl specifier) reached = .error error) ∧
    (fixText parser rules specifier text = .error .unsettled ↔
      ∃ reached, LeadsTo parser rules specifier 16 text reached) ∧
    FixError.unsettledMessage = "Fixes did not settle after 16 passes" ∧
    (∀ fixed, fixText parser rules specifier text = .ok fixed →
      fixText parser rules specifier fixed = .ok fixed) ∧
    (Settled parser rules specifier text → fixText parser rules specifier text = .ok text) := by
  have hlt : ∀ count, count < maxPasses ↔ count ≤ 15 := fun count => Nat.lt_succ_iff
  refine ⟨fun fixed => ?_, fun error => ?_, ?_, by decide, fun fixed => fixText_of_fixText,
    Settled.fixText_eq⟩
  · simp only [fixText, fixWithin_eq_iff, ends_ok_iff, hlt, reduceCtorEq, false_and, or_false]
    constructor
    · rintro ⟨count, hle, reached, hleads, rfl, hsettled⟩
      exact ⟨count, hle, hleads, hsettled⟩
    · rintro ⟨count, hle, hleads, hsettled⟩
      exact ⟨count, hle, fixed, hleads, rfl, hsettled⟩
  · simp only [fixText, fixWithin_eq_iff, ends_malformed_iff, hlt, Except.error.injEq, reduceCtorEq,
      false_and, or_false]
  · simp only [fixText, fixWithin_eq_iff, not_ends_unsettled, and_false, exists_false, true_and,
      false_or, maxPasses]

namespace Semicolons

/-- A rule that asks for one more semicolon as long as there are too few. -/
def rule (enough : Nat) : Rule where
  code := "semicolons"
  check text _ := .ok <|
    if text.length < enough then [⟨⟨0, 0⟩, "semicolons", "", none, [⟨"", [⟨⟨0, 0⟩, [';']⟩]⟩]⟩] else []

theorem leadsTo (enough count first : Nat) (h : first + count ≤ enough) (hle : enough ≤ 16) :
    LeadsTo programParser [rule enough] SourceFile.exampleUrl count (List.replicate first ';')
      (List.replicate (first + count) ';') := by
  have hpass : ∀ enough ≤ 16, ∀ first < enough,
      Fixable programParser [rule enough] SourceFile.exampleUrl (List.replicate first ';') ∧
        pass programParser [rule enough] SourceFile.exampleUrl (List.replicate first ';') =
          .ok (List.replicate (first + 1) ';') := by
    decide +kernel
  induction count generalizing first with
  | zero => exact LeadsTo.zero
  | succ count ih =>
      obtain ⟨hfixable, hnext⟩ := hpass enough hle first (by omega)
      have hrest := ih (first + 1) (by omega)
      rw [Nat.add_right_comm] at hrest
      exact leadsTo_succ_iff.mpr ⟨hfixable, _, hnext, hrest⟩

end Semicolons

/-- Fifteen semicolons are written. Sixteen are not, although nothing would be left to fix. -/
theorem semicolons_fixText :
    fixText programParser [Semicolons.rule 15] SourceFile.exampleUrl [] =
      .ok (List.replicate 15 ';') ∧
    LeadsTo programParser [Semicolons.rule 16] SourceFile.exampleUrl 16 [] (List.replicate 16 ';') ∧
    Settled programParser [Semicolons.rule 16] SourceFile.exampleUrl (List.replicate 16 ';') ∧
    fixText programParser [Semicolons.rule 16] SourceFile.exampleUrl [] = .error .unsettled := by
  have hfifteen := Semicolons.leadsTo 15 15 0 (by decide) (by decide)
  have hsixteen := Semicolons.leadsTo 16 16 0 (by decide) (by decide)
  have hsettled : Settled programParser [Semicolons.rule 15] SourceFile.exampleUrl
      (List.replicate 15 ';') := ⟨[], by decide +kernel, rfl⟩
  have hsettled' : Settled programParser [Semicolons.rule 16] SourceFile.exampleUrl
      (List.replicate 16 ';') := ⟨[], by decide +kernel, rfl⟩
  obtain ⟨hok, -⟩ := fixText_eq_iff_leadsTo programParser [Semicolons.rule 15] SourceFile.exampleUrl []
  obtain ⟨-, -, hused, -⟩ :=
    fixText_eq_iff_leadsTo programParser [Semicolons.rule 16] SourceFile.exampleUrl []
  exact ⟨(hok _).mpr ⟨15, Nat.le_refl 15, hfifteen, hsettled⟩, hsixteen, hsettled',
    hused.mpr ⟨_, hsixteen⟩⟩

end BraceLint
