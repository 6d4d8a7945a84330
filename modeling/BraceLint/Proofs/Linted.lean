import BraceLint.FixLoop
import BraceLint.Proofs.Positions
import BraceLint.Rule.Selection

/-! Reading back what linting found. Nothing is asked of the tree here: whenever linting a tree with the
rule gives diagnostics at all, they are what the rule makes of the statements without braces, one for
each and in their order. -/

namespace BraceLint

theorem bind_eq_ok_iff {α β ε : Type} {first : Except ε α} {next : α → Except ε β} {result : β} :
    (first >>= next) = .ok result ↔ ∃ value, first = .ok value ∧ next value = .ok result := by
  cases first with
  | error error => exact ⟨nofun, fun ⟨_, hvalue, _⟩ => nomatch hvalue⟩
  | ok value =>
      constructor
      · exact fun hnext => ⟨value, rfl, hnext⟩
      · rintro ⟨_, hvalue, hnext⟩
        cases hvalue
        exact hnext

theorem bind_eq_error_iff {α β ε : Type} {first : Except ε α} {next : α → Except ε β} {error : ε} :
    (first >>= next) = .error error ↔
      first = .error error ∨ ∃ value, first = .ok value ∧ next value = .error error := by
  cases first with
  | error other =>
      constructor
      · exact fun h => Or.inl (by cases h; rfl)
      · rintro (h | ⟨_, hvalue, _⟩)
        · cases h
          rfl
        · cases hvalue
  | ok value =>
      constructor
      · exact fun hnext => Or.inr ⟨value, rfl, hnext⟩
      · rintro (h | ⟨_, hvalue, hnext⟩)
        · cases h
        · cases hvalue
          exact hnext

/-- What does not succeed fails. -/
theorem exists_error_iff {α ε : Type} {result : Except ε α} :
    (∃ error, result = .error error) ↔ ¬∃ value, result = .ok value := by
  cases result <;> simp

theorem mapError_eq_ok_iff {α ε ε' : Type} {result : Except ε α} {rename : ε → ε'} {value : α} :
    result.mapError rename = .ok value ↔ result = .ok value := by
  cases result with
  | error error => exact ⟨nofun, nofun⟩
  | ok other => exact ⟨fun h => by cases h; rfl, fun h => by cases h; rfl⟩

theorem forall₂_of_mapM_eq_ok {α β ε : Type} {f : α → Except ε β} {items : List α} {results : List β}
    (h : items.mapM f = .ok results) : List.Forall₂ (fun item result => f item = .ok result) items results := by
  induction items generalizing results with
  | nil =>
      cases h
      exact List.Forall₂.nil
  | cons item items ih =>
      rw [List.mapM_cons] at h
      obtain ⟨result, hresult, hrest⟩ := bind_eq_ok_iff.mp h
      obtain ⟨others, hothers, hpure⟩ := bind_eq_ok_iff.mp hrest
      cases hpure
      exact List.Forall₂.cons hresult (ih hothers)

/-! ### Diagnostics of the rule -/

theorem Text.byte_of_position {text : Text} {offset : Nat} {position : Position}
    (h : text.position offset = .ok position) : position.byte = offset := by
  unfold Text.position Text.position? at h
  cases hplace : text.locate? offset 0 0 with
  | none =>
      rw [hplace] at h
      cases h
  | some place =>
      rw [hplace] at h
      cases h
      rfl

namespace Finding

variable {specifier : Url} {text : Text} {finding : Finding} {diagnostic : Diagnostic}

/-- A diagnostic goes from the place where its finding starts to the place where it stops. -/
theorem position_of_locate (h : finding.locate specifier text = .ok diagnostic) :
    text.position finding.span.start = .ok diagnostic.range.start ∧
      text.position finding.span.stop = .ok diagnostic.range.stop := by
  obtain ⟨start, hstart, hrest⟩ := bind_eq_ok_iff.mp h
  obtain ⟨stop, hstop, hpure⟩ := bind_eq_ok_iff.mp hrest
  cases hpure
  exact ⟨hstart, hstop⟩

theorem of_locate (h : finding.locate specifier text = .ok diagnostic) :
    diagnostic.specifier = specifier ∧ diagnostic.range.start.byte = finding.span.start ∧
      diagnostic.fixes = finding.fixes := by
  have hstart := Text.byte_of_position (position_of_locate h).1
  obtain ⟨_, -, hrest⟩ := bind_eq_ok_iff.mp h
  obtain ⟨_, -, hpure⟩ := bind_eq_ok_iff.mp hrest
  cases hpure
  exact ⟨rfl, hstart, rfl⟩

end Finding

namespace Curly

variable {rule : Curly} {specifier : Url} {text : Text} {statement : Unbraced}

theorem of_finding {found : Finding} (h : rule.finding text statement = .ok found) :
    found.span = statement.span ∧ (rule.fix = true → found.fixes ≠ []) := by
  unfold finding at h
  split_ifs at h with hfix
  · obtain ⟨fixes, hfixes, hpure⟩ := bind_eq_ok_iff.mp h
    obtain ⟨fix, -, hsingle⟩ := bind_eq_ok_iff.mp hfixes
    cases hsingle
    cases hpure
    exact ⟨rfl, fun _ => List.cons_ne_nil _ _⟩
  · cases h
    exact ⟨rfl, fun hrepairs => absurd hrepairs hfix⟩

/-- What the rule makes of a statement without braces in a file. -/
def Yields (rule : Curly) (specifier : Url) (text : Text) (statement : Unbraced)
    (diagnostic : Diagnostic) : Prop :=
  ∃ found, rule.finding text statement = .ok found ∧ found.locate specifier text = .ok diagnostic

namespace Yields

variable {diagnostic : Diagnostic}

theorem specifier_eq (h : rule.Yields specifier text statement diagnostic) :
    diagnostic.specifier = specifier := by
  obtain ⟨found, -, hlocate⟩ := h
  exact (Finding.of_locate hlocate).1

theorem start_eq (h : rule.Yields specifier text statement diagnostic) :
    diagnostic.range.start.byte = statement.span.start := by
  obtain ⟨found, hfound, hlocate⟩ := h
  rw [(Finding.of_locate hlocate).2.1, (of_finding hfound).1]

theorem fixes_ne_nil (h : rule.Yields specifier text statement diagnostic) (hfix : rule.fix = true) :
    diagnostic.fixes ≠ [] := by
  obtain ⟨found, hfound, hlocate⟩ := h
  rw [(Finding.of_locate hlocate).2.2]
  exact (of_finding hfound).2 hfix

end Yields

end Curly

theorem forall₂_of_lintTree {rule : Curly} {specifier : Url} {text : Text} {tree : Tree}
    {diagnostics : List Diagnostic} (h : lintTree [rule.toRule] specifier text tree = .ok diagnostics) :
    List.Forall₂ (rule.Yields specifier text) tree.unbraced diagnostics := by
  obtain ⟨lists, heach, hpure⟩ := bind_eq_ok_iff.mp h
  cases hpure
  cases forall₂_of_mapM_eq_ok heach with
  | cons hfound hnil =>
      cases hnil
      obtain ⟨findings, hfindings, hlocated⟩ := bind_eq_ok_iff.mp hfound
      rw [List.flatten_cons, List.flatten_nil, List.append_nil]
      exact forall₂_join (forall₂_of_mapM_eq_ok hfindings) (forall₂_of_mapM_eq_ok hlocated)

/-- The offsets at which diagnostics start, in their order. -/
def startBytes (diagnostics : List Diagnostic) : List Nat :=
  diagnostics.map fun diagnostic => diagnostic.range.start.byte

theorem startBytes_eq {rule : Curly} {specifier : Url} {text : Text} {statements : List Unbraced}
    {diagnostics : List Diagnostic}
    (h : List.Forall₂ (rule.Yields specifier text) statements diagnostics) :
    startBytes diagnostics = statements.map fun statement => statement.span.start := by
  induction h with
  | nil => rfl
  | cons hhead htail ih => rw [startBytes, List.map_cons, List.map_cons, hhead.start_eq, ← ih, startBytes]

theorem specifier_eq_of_forall₂ {rule : Curly} {specifier : Url} {text : Text}
    {statements : List Unbraced} {diagnostics : List Diagnostic}
    (h : List.Forall₂ (rule.Yields specifier text) statements diagnostics) :
    ∀ diagnostic ∈ diagnostics, diagnostic.specifier = specifier := by
  induction h with
  | nil => exact fun _ hmem => absurd hmem List.not_mem_nil
  | cons hhead _ ih => exact List.forall_mem_cons.mpr ⟨hhead.specifier_eq, ih⟩

/-- Linting a text parses it and lints its tree. -/
theorem lintText_eq_ok_iff {parser : Parser} {rules : List Rule} {specifier : Url} {text : Text}
    {diagnostics : List Diagnostic} :
    lintText parser rules specifier text = .ok diagnostics ↔
      ∃ tree, parser specifier (MediaType.ofUrl specifier) text = .ok tree ∧
        lintTree rules specifier text tree = .ok diagnostics := by
  unfold lintText lintFile SourceFile.ofUrl
  cases hparse : parser specifier (MediaType.ofUrl specifier) text with
  | error error => simp
  | ok tree => cases hlint : lintTree rules specifier text tree <;> simp [hlint]

end BraceLint
