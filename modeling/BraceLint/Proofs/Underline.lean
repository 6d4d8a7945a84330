import BraceLint.Proofs.PrintedLine

/-! How much of a statement is underlined. Statements start and end with tokens, so the line that is
shown has the characters of a statement from its column to its end or to the end of the line. The
underline has one caret for each of these if the statement is on one line. If it goes on on other lines,
the underline is counted in bytes, and each byte that a character of the line takes beyond its first one
is a caret too many. -/

namespace BraceLint

namespace Text

theorem length_le_size (text : Text) : text.length ≤ text.size := by
  induction text with
  | nil => exact Nat.le_refl _
  | cons c text ih =>
      have hpos := Char.utf8Size_pos c
      rw [List.length_cons, size_cons]
      omega

theorem size_eq_length_iff {text : Text} : text.size = text.length ↔ ∀ c ∈ text, c.utf8Size = 1 := by
  induction text with
  | nil => simp
  | cons c text ih =>
      have hpos := Char.utf8Size_pos c
      have hle := length_le_size text
      rw [List.forall_mem_cons, ← ih, List.length_cons, size_cons]
      omega

/-! ### The part of a line that a piece of the text has -/

section Parts

variable {first inner more left right head after content shown : Text}

/-- A piece without a line feed ends before the line does. -/
theorem exists_eq_append_of_not_mem (hparts : inner ++ right = head ++ after) (hinner : '\n' ∉ inner)
    (hends : after = [] ∨ after.head? = some '\n') : ∃ more, head = inner ++ more := by
  rcases List.append_eq_append_iff.mp hparts with ⟨more, hhead, -⟩ | ⟨between, hlong, hafter⟩
  · exact ⟨more, hhead⟩
  · cases between with
    | nil => exact ⟨[], by rw [hlong, List.append_nil, List.append_nil]⟩
    | cons c between =>
        -- The piece would have the line feed that the line ends at.
        rw [hafter, or_iff_right (List.append_ne_nil_of_left_ne_nil (List.cons_ne_nil _ _) _),
          List.cons_append, List.head?_cons, Option.some.injEq] at hends
        subst hends
        exact absurd (hlong ▸ List.mem_append_right head List.mem_cons_self) hinner

/-- A piece with a line feed has all that is left of the line, and more. -/
theorem exists_eq_append_newline (hparts : inner ++ right = head ++ after) (hinner : '\n' ∈ inner)
    (hhead : '\n' ∉ head) (hends : after = [] ∨ after.head? = some '\n') :
    ∃ later, inner = head ++ '\n' :: later := by
  rcases List.append_eq_append_iff.mp hparts with ⟨more, hlong, -⟩ | ⟨between, hshort, hafter⟩
  · exact absurd (hlong ▸ List.mem_append_left more hinner) hhead
  · cases between with
    | nil =>
        rw [hshort, List.append_nil] at hinner
        exact absurd hinner hhead
    | cons c later =>
        rw [hafter, or_iff_right (List.append_ne_nil_of_left_ne_nil (List.cons_ne_nil _ _) _),
          List.cons_append, List.head?_cons, Option.some.injEq] at hends
        exact ⟨later, by rw [hshort, hends]⟩

theorem IsShown.length_le (h : IsShown content after shown) : shown.length ≤ content.length := by
  obtain ⟨-, rfl⟩ | ⟨rfl, -⟩ := h
  · rw [List.length_append]
    exact Nat.le_add_right _ _
  · exact Nat.le_refl _

/-- A line is shown as far as something in it that does not end with a carriage return. -/
theorem IsShown.add_length_le (h : IsShown (first ++ (inner ++ more)) after shown) (hne : inner ≠ [])
    (hlast : inner.getLast? ≠ some '\r') : first.length + inner.length ≤ shown.length := by
  obtain ⟨-, hcontent⟩ | ⟨rfl, -⟩ := h
  · cases more with
    | nil =>
        have hreturn := congrArg List.getLast? hcontent
        rw [List.append_nil, List.getLast?_append_of_ne_nil _ hne, List.getLast?_concat] at hreturn
        exact absurd hreturn hlast
    | cons c more =>
        have hlength := congrArg List.length hcontent
        simp only [List.length_append, List.length_cons, List.length_nil] at hlength
        omega
  · simp only [List.length_append]
    omega

variable (left right)

/-- A piece without a line feed is in its line as a whole. -/
theorem column_add_length_le_of_not_mem (hinner : '\n' ∉ inner) (hne : inner ≠ [])
    (hlast : inner.getLast? ≠ some '\r') :
    left.column + inner.length ≤ (line (left ++ inner ++ right) (left.count '\n')).length := by
  obtain ⟨before, tail, head, after, rfl, hparts, hhas, hcount, hcolumn⟩ :=
    exists_hasLine left (inner ++ right)
  obtain ⟨more, rfl⟩ := exists_eq_append_of_not_mem hparts hinner hhas.ends
  have hshown := hhas.isShown
  rw [hcount] at hshown
  rw [List.append_assoc, ← hcolumn]
  exact hshown.add_length_le hne hlast

/-- A piece with a line feed goes up to the end of the line that it starts in. -/
theorem column_lt_length_of_mem (hinner : '\n' ∈ inner) (hfeed : inner.head? ≠ some '\n')
    (hreturn : inner.head? ≠ some '\r') :
    left.column < (line (left ++ inner ++ right) (left.count '\n')).length ∧
      (line (left ++ inner ++ right) (left.count '\n')).length < left.column + inner.length := by
  obtain ⟨before, tail, head, after, rfl, hparts, hhas, hcount, hcolumn⟩ :=
    exists_hasLine left (inner ++ right)
  have hhead : '\n' ∉ head := fun hmem => hhas.not_mem (List.mem_append_right tail hmem)
  obtain ⟨later, rfl⟩ := exists_eq_append_newline hparts hinner hhead hhas.ends
  have hshown := hhas.isShown
  rw [hcount] at hshown
  rw [List.append_assoc, ← hcolumn]
  cases head with
  | nil => exact absurd rfl hfeed
  | cons c head =>
      -- One character is enough: it is shown, since it is no carriage return.
      have hbegun := hshown.add_length_le (List.cons_ne_nil c []) hreturn
      have hwhole := hshown.length_le
      have hlonger : (c :: head).length < (c :: head ++ '\n' :: later).length := by
        simp only [List.length_append, List.length_cons]
        omega
      rw [List.length_append] at hwhole
      exact ⟨hbegun, by omega⟩

end Parts

end Text

/-! ### Statements from token to token -/

/-- Neither the first nor the last character of a span belongs to the end of a line. -/
def Span.Tight (text : Text) (span : Span) : Prop :=
  ∀ inner ∈ text.slice? span,
    inner.head? ∉ [some '\n', some '\r'] ∧ inner.getLast? ∉ [some '\n', some '\r']

instance (text : Text) (span : Span) : Decidable (span.Tight text) :=
  inferInstanceAs (Decidable (∀ inner ∈ text.slice? span, _ ∧ _))

/-- Statements without braces start with their keyword and end with their last token, so they have no
part of a line end at either end. -/
def Tree.Tight (text : Text) (tree : Tree) : Prop :=
  ∀ statement ∈ tree.unbraced, statement.span.Tight text

instance (text : Text) (tree : Tree) : Decidable (tree.Tight text) :=
  inferInstanceAs (Decidable (∀ statement ∈ tree.unbraced, statement.span.Tight text))

theorem Position.IsAt.eq_of_append {position : Position} {left right : Text}
    (h : position.IsAt (left ++ right) left.size) :
    position = ⟨left.count '\n', left.column, left.size⟩ := by
  obtain ⟨left', right', happend, hsize, rfl⟩ := h
  obtain ⟨rfl, -⟩ := Text.append_inj_of_size happend hsize.symm
  rfl

namespace Terminal

/-- The line of a source that a diagnostic starts in, as it is shown. -/
def firstLine (diagnostic : Diagnostic) (source : Text) : Text :=
  source.line diagnostic.range.start.line

/-- How many characters of a statement are shown in its first line: those up to the end of the statement
or to the end of the line, whichever comes first. -/
def visibleLength (diagnostic : Diagnostic) (source statement : Text) : Nat :=
  min statement.length ((firstLine diagnostic source).length - diagnostic.range.start.column)

section Underline

variable {left inner line : Text} {byte byte' : Nat}

theorem caretCount?_of_not_mem (hinner : '\n' ∉ inner) (hne : inner ≠ []) :
    caretCount? ⟨⟨left.count '\n', left.column, byte⟩,
      ⟨(left ++ inner).count '\n', (left ++ inner).column, byte'⟩⟩ line = some inner.length := by
  have hpos := List.length_pos_iff.mpr hne
  have hline : left.count '\n' = (left ++ inner).count '\n' := by
    rw [List.count_append, List.count_eq_zero_of_not_mem hinner, Nat.add_zero]
  rw [caretCount?, if_pos hline, Text.column_append, if_neg hinner, if_pos (Nat.le_add_right _ _),
    Nat.add_sub_cancel_left, Nat.max_eq_right hpos]

theorem caretCount?_of_mem (hinner : '\n' ∈ inner) (hcolumn : left.column < line.length) :
    caretCount? ⟨⟨left.count '\n', left.column, byte⟩,
      ⟨(left ++ inner).count '\n', (left ++ inner).column, byte'⟩⟩ line =
        some (line.length - left.column + (line.size - line.length)) := by
  have hpos := List.count_pos_iff.mpr hinner
  have hsize := Text.length_le_size line
  have hlines : left.count '\n' ≠ (left ++ inner).count '\n' := by
    rw [List.count_append]
    omega
  have hcarets : max 1 (line.size - left.column) =
      line.length - left.column + (line.size - line.length) := by
    omega
  rw [caretCount?, if_neg hlines, hcarets]

end Underline

end Terminal

/-! ### Statements of a file -/

/-- A statement that fits a text has a text of its own, which is not empty. -/
theorem Unbraced.Fits.exists_slice? {text : Text} {statement : Unbraced} (h : statement.Fits text) :
    ∃ inner, text.slice? statement.span = some inner ∧ inner ≠ [] := by
  obtain ⟨left, inner, right, hparts, hstart, hstop⟩ := h.span_isIn.exists_parts
  refine ⟨inner, Text.slice?_eq_some_iff.mpr ⟨left, right, hparts, hstart, hstop⟩, ?_⟩
  rintro rfl
  have hbefore := h.start_lt
  have hbody := h.nonempty
  have hinside := h.inside.2
  rw [List.append_nil] at hstop
  omega

namespace Curly

variable {rule : Curly} {specifier : Url} {text left inner right : Text} {statement : Unbraced}
  {diagnostic : Diagnostic}

theorem Reports.range_eq (h : rule.Reports specifier (left ++ inner ++ right) statement diagnostic)
    (hstart : left.size = statement.span.start) (hstop : (left ++ inner).size = statement.span.stop) :
    diagnostic.range = ⟨⟨left.count '\n', left.column, left.size⟩,
      ⟨(left ++ inner).count '\n', (left ++ inner).column, (left ++ inner).size⟩⟩ := by
  have hstartAt := h.start
  have hstopAt := h.stop
  rw [← hstart, List.append_assoc] at hstartAt
  rw [← hstop] at hstopAt
  exact congrArg₂ Range.mk hstartAt.eq_of_append hstopAt.eq_of_append

/-- A statement is in its first line up to its end, or up to the end of the line if it goes on, and the
carets are those of one or the other case. -/
theorem Reports.visibleLength_cases (h : rule.Reports specifier text statement diagnostic)
    (hslice : text.slice? statement.span = some inner) (hne : inner ≠ [])
    (htight : statement.span.Tight text) :
    0 < Terminal.visibleLength diagnostic text inner ∧
      (('\n' ∉ inner ∧
          diagnostic.range.start.column + Terminal.visibleLength diagnostic text inner ≤
            (Terminal.firstLine diagnostic text).length ∧
          Terminal.caretCount? diagnostic.range (Terminal.firstLine diagnostic text) =
            some (Terminal.visibleLength diagnostic text inner)) ∨
        ('\n' ∈ inner ∧
          diagnostic.range.start.column + Terminal.visibleLength diagnostic text inner =
            (Terminal.firstLine diagnostic text).length ∧
          Terminal.caretCount? diagnostic.range (Terminal.firstLine diagnostic text) =
            some (Terminal.visibleLength diagnostic text inner +
              ((Terminal.firstLine diagnostic text).size -
                (Terminal.firstLine diagnostic text).length)))) := by
  obtain ⟨hfirst, hlast⟩ := htight inner hslice
  simp only [List.mem_cons, List.not_mem_nil, or_false, not_or] at hfirst hlast
  obtain ⟨left, right, rfl, hstart, hstop⟩ := Text.slice?_eq_some_iff.mp hslice
  simp only [Terminal.visibleLength, Terminal.firstLine, h.range_eq hstart hstop]
  by_cases hinner : '\n' ∈ inner
  · obtain ⟨hbegun, hwhole⟩ := Text.column_lt_length_of_mem left right hinner hfirst.1 hfirst.2
    rw [Nat.min_eq_right (by omega)]
    exact ⟨by omega, Or.inr ⟨hinner, by omega, Terminal.caretCount?_of_mem hinner hbegun⟩⟩
  · have hwithin := Text.column_add_length_le_of_not_mem left right hinner hne hlast.2
    rw [Nat.min_eq_left (by omega)]
    exact ⟨List.length_pos_iff.mpr hne,
      Or.inl ⟨hinner, hwithin, Terminal.caretCount?_of_not_mem hinner hne⟩⟩

end Curly

/-- **The underline of a statement.** In a file whose parts are nested in its text, and whose statements
start and end with tokens, each diagnostic of the rule can be reported. It goes from the start of its
statement to the end, and a part of the statement that is not empty is shown. A statement on one line has
a caret for each of its characters. A statement on several lines has a caret for each of its characters in
the first line, and one more for each byte that a character of this line takes beyond its first one. So
the underline covers exactly what is shown of the statement if that is all of it, or if all characters of
the line take one byte, and otherwise it is too long even for the line. -/
theorem lintFile_underlined_iff (parser : Parser) (rule : Curly) (file : SourceFile) {tree : Tree}
    (hparse : parser file.specifier file.mediaType file.text = .ok tree)
    (hnested : tree.WellNested file.text) (htight : tree.Tight file.text) :
    ∃ diagnostics, lintFile parser [rule.toRule] file = .ok diagnostics ∧
      List.Forall₂ (fun (statement : Unbraced) (diagnostic : Diagnostic) => ∃ inner line visible carets,
        (diagnostic.range.start.IsAt file.text statement.span.start ∧
          diagnostic.range.stop.IsAt file.text statement.span.stop) ∧
        file.text.slice? statement.span = some inner ∧
        line = Terminal.firstLine diagnostic file.text ∧
        visible = Terminal.visibleLength diagnostic file.text inner ∧
        Terminal.render? diagnostic file.text = some (String.intercalate "\n"
          (Terminal.rowsAbove diagnostic ++
            [Terminal.sourceRow diagnostic line, Terminal.underlineRow diagnostic carets] ++
            Terminal.rowsBelow diagnostic)) ∧
        (0 < visible ∧ diagnostic.range.start.column + visible ≤ line.length) ∧
        carets = visible + (if '\n' ∈ inner then line.size - line.length else 0) ∧
        (carets = visible ↔ '\n' ∉ inner ∨ ∀ c ∈ line, c.utf8Size = 1) ∧
        (diagnostic.range.start.column + carets ≤ line.length ↔
          '\n' ∉ inner ∨ ∀ c ∈ line, c.utf8Size = 1)) tree.unbraced diagnostics := by
  obtain ⟨diagnostics, hlint, hreports⟩ :=
    exists_lintTree_reports rule file.specifier hnested.laminar.isIn
  refine ⟨diagnostics, by simp only [lintFile, hparse, hlint], ?_⟩
  refine ((List.forall₂_and_left _ _).mpr ⟨fun _ => id, hreports⟩).imp ?_
  rintro statement diagnostic ⟨hmem, hreport⟩
  obtain ⟨inner, hslice, hne⟩ := (hnested.fits statement hmem).exists_slice?
  obtain ⟨hpos, ⟨hinner, hwithin, hcarets⟩ | ⟨hinner, hwithin, hcarets⟩⟩ :=
    hreport.visibleLength_cases hslice hne (htight statement hmem)
  · refine ⟨inner, _, _, _, ⟨hreport.start, hreport.stop⟩, hslice, rfl, rfl,
      Terminal.render?_eq hcarets, ⟨hpos, hwithin⟩, ?_,
      iff_of_true rfl (Or.inl hinner), iff_of_true hwithin (Or.inl hinner)⟩
    rw [if_neg hinner, Nat.add_zero]
  · -- The statement has all of its line, so the carets beyond it are the bytes beyond the characters.
    have hsize := Text.length_le_size (Terminal.firstLine diagnostic file.text)
    refine ⟨inner, _, _, _, ⟨hreport.start, hreport.stop⟩, hslice, rfl, rfl,
      Terminal.render?_eq hcarets, ⟨hpos, Nat.le_of_eq hwithin⟩, ?_, ?_, ?_⟩
    · rw [if_pos hinner]
    all_goals
      rw [or_iff_right (not_not_intro hinner), ← Text.size_eq_length_iff]
      omega

/-! ### A loop whose first line has a character of two bytes -/

namespace WideLine

/-- A loop without braces on two lines. A letter of the first line takes two bytes. -/
def text : Text := "while (\"é\")\n  f();".toList

def tree : Tree :=
  .node ⟨0, 19⟩ [.control (.whileLoop ⟨0, 19⟩ (.node ⟨7, 11⟩ [])
    (.node ⟨15, 19⟩ [.node ⟨15, 18⟩ [.node ⟨15, 16⟩ []]]))]

def file : SourceFile := SourceFile.ofUrl SourceFile.exampleUrl text

theorem parse : programParser file.specifier file.mediaType file.text = .ok tree := by
  decide +kernel

/-- The diagnostic of the loop. -/
def diagnostic : Diagnostic :=
  .expected SourceFile.exampleUrl ⟨0, 0, 0⟩ ⟨1, 6, 19⟩ "Use curly braces for \x60while\x60 statement"
    ⟨15, 19⟩ "\x7b\nf();\x7d"

theorem lintTree_eq : lintTree [Curly.fixable.toRule] file.specifier file.text tree = .ok [diagnostic] := by
  decide +kernel

theorem lintFile_eq : lintFile programParser [Curly.fixable.toRule] file = .ok [diagnostic] := by
  simp only [lintFile, parse, lintTree_eq]

end WideLine

/-- The underline of the loop is one caret longer than its first line. -/
theorem not_underlined_of_wideLine :
    lintFile programParser [Curly.fixable.toRule] WideLine.file = .ok [WideLine.diagnostic] ∧
    WideLine.text.slice? ⟨0, 19⟩ = some WideLine.text ∧
    Terminal.visibleLength WideLine.diagnostic WideLine.text WideLine.text < 12 ∧
    (Terminal.firstLine WideLine.diagnostic WideLine.text).length <
      WideLine.diagnostic.range.start.column + 12 ∧
    Terminal.render? WideLine.diagnostic WideLine.text = some (String.intercalate "\n" [
      "(\x1b[38;5;8mcurly\x1b[0m) Use curly braces for \x60while\x60 statement",
      "\x1b[38;5;14m --> file:///main.ts:1:1\x1b[0m",
      "  |",
      "1 | while (\"é\")",
      "  | \x1b[31m^^^^^^^^^^^^\x1b[0m",
      "  = hint: Add curly braces around the body of this statement"]) :=
  ⟨WideLine.lintFile_eq, by decide, by decide, by decide, by decide +kernel⟩

theorem wideLine_underlined :
    (WideLine.tree.WellNested WideLine.file.text ∧ WideLine.tree.Tight WideLine.file.text) ∧
    ∃ carets, Terminal.render? WideLine.diagnostic WideLine.text = some (String.intercalate "\n"
        (Terminal.rowsAbove WideLine.diagnostic ++
          [Terminal.sourceRow WideLine.diagnostic (Terminal.firstLine WideLine.diagnostic WideLine.text),
            Terminal.underlineRow WideLine.diagnostic carets] ++
          Terminal.rowsBelow WideLine.diagnostic)) ∧
      carets = 12 ∧ ¬carets = Terminal.visibleLength WideLine.diagnostic WideLine.text WideLine.text := by
  have hnested : WideLine.tree.WellNested WideLine.file.text := by decide +kernel
  have htight : WideLine.tree.Tight WideLine.file.text := by decide +kernel
  obtain ⟨diagnostics, hlint, hunderlined⟩ := lintFile_underlined_iff programParser Curly.fixable
    WideLine.file WideLine.parse hnested htight
  rw [WideLine.lintFile_eq, Except.ok.injEq] at hlint
  subst hlint
  have hunbraced : WideLine.tree.unbraced = [⟨.whileLoop, ⟨0, 19⟩, ⟨15, 19⟩⟩] := by decide
  rw [hunbraced] at hunderlined
  obtain ⟨⟨inner, line, visible, carets, -, hslice, rfl, rfl, hrender, -, hcarets, hexact, -⟩, -⟩ :=
    List.forall₂_cons.mp hunderlined
  have hinner : inner = WideLine.text := by
    rw [show WideLine.file.text.slice? ⟨0, 19⟩ = some WideLine.text by decide +kernel] at hslice
    exact (Option.some.inj hslice).symm
  subst hinner
  refine ⟨⟨hnested, htight⟩, carets, hrender, hcarets.trans (by decide), fun hequal => ?_⟩
  obtain hline | hnarrow := hexact.mp hequal
  · exact hline (by decide)
  · exact absurd (hnarrow 'é' (by decide)) (by decide)

end BraceLint
