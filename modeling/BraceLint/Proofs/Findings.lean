import BraceLint.Lint
import BraceLint.Proofs.Nesting
import Mathlib.Data.List.Forall2
import Mathlib.Data.List.TakeWhile
import Mathlib.Tactic.SplitIfs

/-! What a diagnostic of the rule says of the statement it is about, and that linting a tree gives one
such diagnostic for every statement without braces, in the order of the statements. Positions are
described by the text before them: the line feeds in it and the characters after the last of these. -/

namespace BraceLint

namespace Text

/-- The number of characters after the last line feed. -/
def column (text : Text) : Nat :=
  (text.reverse.takeWhile fun c => c ≠ '\n').length

theorem takeWhile_reverse_of_not_mem {text : Text} (h : '\n' ∉ text) :
    (text.reverse.takeWhile fun c => c ≠ '\n') = text.reverse := by
  apply List.takeWhile_eq_self_iff.mpr
  intro c hc
  rw [decide_eq_true_eq]
  rintro rfl
  exact h (List.mem_reverse.mp hc)

theorem column_of_not_mem {text : Text} (h : '\n' ∉ text) : text.column = text.length := by
  rw [column, takeWhile_reverse_of_not_mem h, List.length_reverse]

theorem column_cons (c : Char) (text : Text) :
    column (c :: text) =
      if '\n' ∈ text then column text else if c = '\n' then text.length else text.length + 1 := by
  rw [column, List.reverse_cons, List.takeWhile_append]
  by_cases hmem : '\n' ∈ text
  · have hshort : (text.reverse.takeWhile fun c => c ≠ '\n').length ≠ text.reverse.length := by
      intro heq
      have hall := List.takeWhile_eq_self_iff.mp
        (List.Sublist.eq_of_length (List.takeWhile_sublist _) heq)
      simpa using hall '\n' (List.mem_reverse.mpr hmem)
    rw [if_neg hshort, if_pos hmem, column]
  · rw [if_pos (congrArg List.length (takeWhile_reverse_of_not_mem hmem)), if_neg hmem,
      List.length_append, List.length_reverse]
    by_cases hc : c = '\n'
    · subst hc
      rfl
    · rw [List.takeWhile_cons_of_pos (by simpa using hc), if_neg hc]
      rfl

/-- Walking over a first part of a text counts its line feeds and the characters after the last one. -/
theorem locate?_append (left right : Text) (line column : Nat) :
    locate? (left ++ right) left.size line column =
      some (line + left.count '\n',
        if '\n' ∈ left then left.column else column + left.length) := by
  induction left generalizing line column with
  | nil =>
      cases right with
      | nil => rfl
      | cons c right =>
          rw [List.nil_append, locate?, size_nil, if_pos (Char.utf8Size_pos c)]
          rfl
  | cons c left ih =>
      have hafter : ¬c.utf8Size + size left < c.utf8Size := by omega
      rw [List.cons_append, locate?, size_cons, if_neg hafter, Nat.add_sub_cancel_left, ih, ih,
        column_cons]
      by_cases hc : c = '\n'
      · subst hc
        by_cases hmem : '\n' ∈ left
        · simp [hmem]
          omega
        · simp [hmem]
          omega
      · by_cases hmem : '\n' ∈ left
        · simp [hmem, hc]
        · simp [hmem, hc, Ne.symm hc]
          omega

end Text

/-- The place of an offset between two characters of a text. -/
def Position.IsAt (position : Position) (text : Text) (offset : Nat) : Prop :=
  ∃ left right, text = left ++ right ∧ left.size = offset ∧
    position = ⟨left.count '\n', left.column, offset⟩

theorem Position.IsAt.byte_eq {position : Position} {text : Text} {offset : Nat}
    (h : position.IsAt text offset) : position.byte = offset := by
  obtain ⟨_, _, _, _, rfl⟩ := h
  rfl

theorem Text.IsBoundary.exists_position {text : Text} {offset : Nat} (h : text.IsBoundary offset) :
    ∃ position, text.position offset = .ok position ∧ position.IsAt text offset := by
  obtain ⟨left, right, rfl, rfl⟩ := h
  have hcolumn : (if '\n' ∈ left then left.column else 0 + left.length) = left.column := by
    by_cases hmem : '\n' ∈ left
    · rw [if_pos hmem]
    · rw [if_neg hmem, Text.column_of_not_mem hmem, Nat.zero_add]
  refine ⟨⟨left.count '\n', left.column, left.size⟩, ?_, left, right, rfl, rfl, rfl⟩
  rw [Text.position, Text.position?, Text.locate?_append, hcolumn, Nat.zero_add]
  rfl

/-- A diagnostic of the rule is about a statement: it spans the statement, names its kind, and offers
to put braces around its body, which is the inner one of three parts of the text, if the rule repairs. -/
structure Curly.Reports (rule : Curly) (specifier : Url) (text : Text) (statement : Unbraced)
    (diagnostic : Diagnostic) : Prop where
  specifier : diagnostic.specifier = specifier
  start : diagnostic.range.start.IsAt text statement.span.start
  stop : diagnostic.range.stop.IsAt text statement.span.stop
  code : diagnostic.code = "curly"
  message : diagnostic.message = match statement.kind with
    | .doWhile => "Use curly braces for \x60do-while\x60 statement"
    | .ifElse => "Use curly braces for \x60if\x60 statement"
    | .forIn => "Use curly braces for \x60for-in\x60 statement"
    | .forOf => "Use curly braces for \x60for-of\x60 statement"
    | .forLoop => "Use curly braces for \x60for\x60 statement"
    | .whileLoop => "Use curly braces for \x60while\x60 statement"
  hint : diagnostic.hint = some "Add curly braces around the body of this statement"
  fixes : ∃ left inner right, text = left ++ inner ++ right ∧
    left.size = statement.body.start ∧ (left ++ inner).size = statement.body.stop ∧
    diagnostic.fixes =
      if rule.fix then
        [⟨"Add curly braces", [⟨statement.body, '\x7b' :: '\n' :: (inner ++ ['\x7d'])⟩]⟩]
      else []

theorem exists_mapM_ok {α β γ ε : Type} {P : α → β → Prop} {R : α → γ → Prop} {f : β → Except ε γ}
    {items : List α} {found : List β} (hfound : List.Forall₂ P items found)
    (hf : ∀ item ∈ items, ∀ finding, P item finding → ∃ result, f finding = .ok result ∧ R item result) :
    ∃ results, found.mapM f = .ok results ∧ List.Forall₂ R items results := by
  induction hfound with
  | nil => exact ⟨[], rfl, List.Forall₂.nil⟩
  | cons hhead htail ih =>
      rw [List.forall_mem_cons] at hf
      obtain ⟨result, hresult, hR⟩ := hf.1 _ hhead
      obtain ⟨results, hresults, hRs⟩ := ih hf.2
      refine ⟨result :: results, ?_, List.Forall₂.cons hR hRs⟩
      rw [List.mapM_cons, hresult]
      change (do return result :: (← List.mapM f _) : Except ε (List γ)) = _
      rw [hresults]
      rfl

namespace Curly

variable {rule : Curly} {specifier : Url} {text : Text}

theorem Reports.exists_fixes {statement : Unbraced} {diagnostic : Diagnostic}
    (h : rule.Reports specifier text statement diagnostic) :
    ∃ inner, text.slice? statement.body = some inner ∧ diagnostic.fixes =
      if rule.fix then [⟨"Add curly braces", [⟨statement.body, brace inner⟩]⟩] else [] := by
  obtain ⟨left, inner, right, hparts, hstart, hstop, hfixes⟩ := h.fixes
  exact ⟨inner, Text.slice?_eq_some_iff.mpr ⟨left, right, hparts, hstart, hstop⟩, hfixes⟩

/-- What the rule finds at a statement whose body has a text. -/
theorem finding_eq {statement : Unbraced} {inner : Text}
    (hslice : text.slice? statement.body = some inner) :
    rule.finding text statement = .ok ⟨statement.span, code, message statement.kind, some hint,
      if rule.fix then [⟨fixDescription, [⟨statement.body, brace inner⟩]⟩] else []⟩ := by
  cases hfix : rule.fix with
  | false =>
      rw [finding, hfix]
      rfl
  | true =>
      rw [finding, hfix, wrap, hslice]
      rfl

theorem exists_reports {statement : Unbraced} {inner : Text} {found : Finding}
    (hspan : statement.span.IsIn text) (hslice : text.slice? statement.body = some inner)
    (hfound : rule.finding text statement = .ok found) :
    ∃ diagnostic, found.locate specifier text = .ok diagnostic ∧
      rule.Reports specifier text statement diagnostic := by
  rw [finding_eq hslice] at hfound
  cases hfound
  obtain ⟨start, hstart, hstartAt⟩ := hspan.2.1.exists_position
  obtain ⟨stop, hstop, hstopAt⟩ := hspan.2.2.exists_position
  obtain ⟨left, right, hparts, hleft, hright⟩ := Text.slice?_eq_some_iff.mp hslice
  refine ⟨⟨specifier, ⟨start, stop⟩, message statement.kind, code, some hint,
    if rule.fix then [⟨fixDescription, [⟨statement.body, brace inner⟩]⟩] else []⟩, ?_,
    rfl, hstartAt, hstopAt, rfl, ?_, rfl, left, inner, right, hparts, hleft, hright, rfl⟩
  · rw [Finding.locate, hstart, hstop]
    rfl
  · cases statement.kind <;> rfl

end Curly

/-- Linting a tree with one rule gives one diagnostic for each statement without braces, in their
order. -/
theorem exists_lintTree_reports (rule : Curly) (specifier : Url) {text : Text} {tree : Tree}
    (h : ∀ statement ∈ tree.unbraced, statement.span.IsIn text ∧ statement.body.IsIn text) :
    ∃ diagnostics, lintTree [rule.toRule] specifier text tree = .ok diagnostics ∧
      List.Forall₂ (rule.Reports specifier text) tree.unbraced diagnostics := by
  have hslice : ∀ statement ∈ tree.unbraced, ∃ inner, text.slice? statement.body = some inner := by
    intro statement hmem
    obtain ⟨left, inner, right, happend, hstart, hstop⟩ := (h statement hmem).2.exists_parts
    exact ⟨inner, Text.slice?_eq_some_iff.mpr ⟨left, right, happend, hstart, hstop⟩⟩
  have hfind : ∀ statement ∈ tree.unbraced, ∀ other, statement = other →
      ∃ found, rule.finding text other = .ok found ∧ rule.finding text statement = .ok found := by
    rintro statement hmem _ rfl
    obtain ⟨inner, hinner⟩ := hslice statement hmem
    exact ⟨_, Curly.finding_eq hinner, Curly.finding_eq hinner⟩
  have hlocate : ∀ statement ∈ tree.unbraced, ∀ found, rule.finding text statement = .ok found →
      ∃ diagnostic, found.locate specifier text = .ok diagnostic ∧
        rule.Reports specifier text statement diagnostic := by
    intro statement hmem found hfound
    obtain ⟨inner, hinner⟩ := hslice statement hmem
    exact Curly.exists_reports (h statement hmem).1 hinner hfound
  obtain ⟨findings, hfindings, hfound⟩ := exists_mapM_ok (List.forall₂_same.mpr fun _ _ => rfl) hfind
  obtain ⟨diagnostics, hdiagnostics, hreports⟩ := exists_mapM_ok hfound hlocate
  refine ⟨diagnostics, ?_, hreports⟩
  simp only [lintTree, lintEach, List.mapM_cons, List.mapM_nil, Curly.toRule, bind, Except.bind, pure,
    Except.pure, hfindings, hdiagnostics, List.flatten_cons, List.flatten_nil, List.append_nil]

theorem lintTree_singleton (rule : Rule) (specifier : Url) (text : Text) (tree : Tree) :
    lintTree [rule] specifier text tree =
      (do (← rule.check text tree).mapM (Finding.locate specifier text)) := by
  rw [lintTree, lintEach, List.mapM_cons]
  cases rule.check text tree with
  | error fault => rfl
  | ok findings =>
      change (do return (← (do return (← findings.mapM (Finding.locate specifier text)) :: [])).flatten :
        Except Fault (List Diagnostic)) = findings.mapM (Finding.locate specifier text)
      cases findings.mapM (Finding.locate specifier text) with
      | error fault => rfl
      | ok diagnostics => exact congrArg Except.ok (List.append_nil diagnostics)

/-- Linting a tree with any number of rules gives one diagnostic for each statement without braces for
each of the rules. -/
theorem exists_lintTree_each_reports (rules : List Curly) (specifier : Url) {text : Text} {tree : Tree}
    (h : ∀ statement ∈ tree.unbraced, statement.span.IsIn text ∧ statement.body.IsIn text) :
    ∃ found, lintTree (rules.map Curly.toRule) specifier text tree = .ok found.flatten ∧
      List.Forall₂ (fun rule => List.Forall₂ (Curly.Reports rule specifier text) tree.unbraced)
        rules found := by
  have hrules : List.Forall₂ (fun (rule : Curly) other => other = rule.toRule) rules
      (rules.map Curly.toRule) := by
    rw [List.forall₂_map_right_iff]
    exact List.forall₂_same.mpr fun _ _ => rfl
  obtain ⟨found, hfound, hreports⟩ := exists_mapM_ok hrules (fun rule _ other hother => by
    obtain ⟨diagnostics, hlint, hreports⟩ := exists_lintTree_reports rule specifier h
    rw [lintTree_singleton, ← hother] at hlint
    exact ⟨diagnostics, hlint, hreports⟩)
  refine ⟨found, ?_, hreports⟩
  rw [lintTree, lintEach, hfound]
  rfl

/-! ### What examples are about -/

/-- The file that examples are about. -/
def SourceFile.exampleUrl : Url where
  scheme := "file"
  hasAuthority := true
  path := .segments ["main.ts"]

theorem LoopAroundIf.parse :
    programParser SourceFile.exampleUrl (MediaType.ofUrl SourceFile.exampleUrl) text = .ok tree := by
  decide +kernel

/-- What an example expects of the rule that repairs: a place, a message, and the text that is to
replace the bytes of a body. -/
def Diagnostic.expected (specifier : Url) (start stop : Position) (message : String) (body : Span)
    (newText : String) : Diagnostic where
  specifier := specifier
  range := ⟨start, stop⟩
  message := message
  code := "curly"
  hint := some "Add curly braces around the body of this statement"
  fixes := [⟨"Add curly braces", [⟨body, newText.toList⟩]⟩]

end BraceLint
