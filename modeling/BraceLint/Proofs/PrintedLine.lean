import BraceLint.Proofs.LineColumn
import BraceLint.Report.Terminal

/-! The line that a report shows. Positions count line feeds, and the lines of a report are cut from the
text by rules of their own for carriage returns and for the end of the text. Both agree on which line an
offset is in, and the column of an offset is the place of its character in the line that is shown. -/

namespace BraceLint

namespace Text

/-- A text has a line, between what comes before it and what comes after it. There is no line feed in
it, but one on either side, except at the ends of the text. -/
structure HasLine (text before content after : Text) : Prop where
  parts : text = before ++ content ++ after
  begins : before = [] ∨ before.getLast? = some '\n'
  not_mem : '\n' ∉ content
  ends : after = [] ∨ after.head? = some '\n'

/-- A line as it is shown: a carriage return that belongs to the line feed after it is left out. -/
def IsShown (content after shown : Text) : Prop :=
  (after ≠ [] ∧ content = shown ++ ['\r']) ∨
    (shown = content ∧ (after = [] ∨ content.getLast? ≠ some '\r'))

/-! ### Lines of a text -/

theorem linesFrom_append {content : Text} (h : '\n' ∉ content) (current rest : Text) :
    linesFrom current (content ++ rest) = linesFrom (content.reverse ++ current) rest := by
  induction content generalizing current with
  | nil => rfl
  | cons c content ih =>
      rw [List.mem_cons, not_or] at h
      rw [List.cons_append, linesFrom, if_neg (Ne.symm h.1), ih h.2, List.reverse_cons,
        List.append_assoc, List.singleton_append]

theorem linesFrom_newline (current rest : Text) :
    linesFrom current ('\n' :: rest) = dropReturn current.reverse :: linesFrom [] rest := by
  rw [linesFrom, if_pos rfl]

/-- The first line, if nothing comes before it. -/
theorem getD_linesFrom_zero {content after : Text} (hcontent : '\n' ∉ content)
    (hends : after = [] ∨ after.head? = some '\n') :
    (linesFrom [] (content ++ after))[0]?.getD [] =
      if after = [] then content else dropReturn content := by
  rw [linesFrom_append hcontent, List.append_nil]
  cases after with
  | nil =>
      rw [if_pos rfl]
      cases hreverse : content.reverse with
      | nil =>
          rw [List.reverse_eq_nil_iff] at hreverse
          rw [hreverse]
          rfl
      | cons c earlier =>
          rw [← List.reverse_reverse content, hreverse]
          rfl
  | cons c later =>
      rw [or_iff_right (List.cons_ne_nil _ _), List.head?_cons, Option.some.injEq] at hends
      rw [hends, linesFrom_newline, List.reverse_reverse, if_neg (List.cons_ne_nil _ _)]
      rfl

theorem eq_nil_or_getLast?_of_cons {c : Char} {before : Text} (h : (c :: before).getLast? = some '\n') :
    (before = [] ∧ c = '\n') ∨ before.getLast? = some '\n' := by
  cases before with
  | nil => exact Or.inl ⟨rfl, Option.some.inj h⟩
  | cons d before => exact Or.inr (by rwa [List.getLast?_cons_cons] at h)

/-- A line comes after as many other ones as there are line feeds before it. -/
theorem getD_linesFrom {before content after : Text} (hcontent : '\n' ∉ content)
    (hends : after = [] ∨ after.head? = some '\n') (current : Text)
    (hbegins : (before = [] ∧ current = []) ∨ before.getLast? = some '\n') :
    (linesFrom current (before ++ (content ++ after)))[before.count '\n']?.getD [] =
      if after = [] then content else dropReturn content := by
  induction before generalizing current with
  | nil =>
      obtain ⟨-, rfl⟩ | hlast := hbegins
      · exact getD_linesFrom_zero hcontent hends
      · cases hlast
  | cons c before ih =>
      rw [or_iff_right (fun h => List.cons_ne_nil _ _ h.1)] at hbegins
      have hrest := eq_nil_or_getLast?_of_cons hbegins
      by_cases hc : c = '\n'
      · subst hc
        have hlines := ih [] (hrest.imp_left fun hnil => ⟨hnil.1, rfl⟩)
        rw [List.cons_append, linesFrom_newline, List.count_cons_self, List.getElem?_cons_succ, hlines]
      · have hlines := ih (c :: current) (Or.inr (hrest.resolve_left fun hnil => hc hnil.2))
        rw [List.cons_append, linesFrom, if_neg hc, List.count_cons_of_ne hc, hlines]

theorem isShown_dropReturn (content : Text) {after : Text} (h : after ≠ []) :
    IsShown content after (dropReturn content) := by
  rw [dropReturn]
  split_ifs with hlast
  · exact Or.inl ⟨h, (List.dropLast_append_getLast? _ hlast).symm⟩
  · exact Or.inr ⟨rfl, Or.inr hlast⟩

theorem HasLine.isShown {text before content after : Text} (h : text.HasLine before content after) :
    IsShown content after (text.line (before.count '\n')) := by
  have hline : text.line (before.count '\n') = if after = [] then content else dropReturn content := by
    rw [line, lines, h.parts, List.append_assoc]
    exact getD_linesFrom h.not_mem h.ends [] (h.begins.imp_left fun hnil => ⟨hnil, rfl⟩)
  rw [hline]
  split_ifs with hnil
  · exact Or.inr ⟨rfl, Or.inl hnil⟩
  · exact isShown_dropReturn content hnil

/-! ### The line of an offset -/

theorem exists_lineStart (front : Text) : ∃ before tail, front = before ++ tail ∧ '\n' ∉ tail ∧
    (before = [] ∨ before.getLast? = some '\n') := by
  induction front with
  | nil => exact ⟨[], [], rfl, List.not_mem_nil, Or.inl rfl⟩
  | cons c front ih =>
      obtain ⟨before, tail, rfl, htail, rfl | hlast⟩ := ih
      · by_cases hc : c = '\n'
        · exact ⟨[c], tail, rfl, htail, Or.inr (congrArg some hc)⟩
        · exact ⟨[], c :: tail, rfl, by simp [htail, Ne.symm hc], Or.inl rfl⟩
      · refine ⟨c :: before, tail, rfl, htail, Or.inr ?_⟩
        rw [List.getLast?_cons, hlast]
        rfl

theorem exists_lineEnd (right : Text) : ∃ head after, right = head ++ after ∧ '\n' ∉ head ∧
    (after = [] ∨ after.head? = some '\n') := by
  induction right with
  | nil => exact ⟨[], [], rfl, List.not_mem_nil, Or.inl rfl⟩
  | cons c right ih =>
      by_cases hc : c = '\n'
      · exact ⟨[], c :: right, rfl, List.not_mem_nil, Or.inr (congrArg some hc)⟩
      · obtain ⟨head, after, rfl, hhead, hafter⟩ := ih
        exact ⟨c :: head, after, rfl, by simp [hhead, Ne.symm hc], hafter⟩

theorem column_of_getLast? {before : Text} (h : before = [] ∨ before.getLast? = some '\n') :
    before.column = 0 := by
  rcases h with rfl | hlast
  · rfl
  · obtain ⟨earlier, rfl⟩ := List.getLast?_eq_some_iff.mp hlast
    rw [column_append, if_pos (List.mem_singleton_self _)]
    rfl

/-- The line that goes on behind a front. What the front has of it is as long as its column. -/
theorem exists_hasLine (front right : Text) : ∃ before tail head after,
    front = before ++ tail ∧ right = head ++ after ∧
      HasLine (front ++ right) before (tail ++ head) after ∧
      before.count '\n' = front.count '\n' ∧ tail.length = front.column := by
  obtain ⟨before, tail, rfl, htail, hbegins⟩ := exists_lineStart front
  obtain ⟨head, after, rfl, hhead, hends⟩ := exists_lineEnd right
  refine ⟨before, tail, head, after, rfl, rfl, ⟨?_, hbegins, ?_, hends⟩, ?_, ?_⟩
  · simp only [List.append_assoc]
  · rw [List.mem_append, not_or]
    exact ⟨htail, hhead⟩
  · rw [List.count_append, List.count_eq_zero_of_not_mem htail, Nat.add_zero]
  · rw [column_append, if_neg htail, column_of_getLast? hbegins, Nat.zero_add]

theorem IsShown.getElem?_eq {content after shown : Text} {index : Nat} {c : Char}
    (h : IsShown content after shown) (hc : content[index]? = some c)
    (hkept : after ≠ [] → index + 1 = content.length → c ≠ '\r') : shown[index]? = some c := by
  obtain ⟨hafter, rfl⟩ | ⟨rfl, -⟩ := h
  · obtain ⟨hlt, -⟩ := List.getElem?_eq_some_iff.mp hc
    rw [List.length_append, List.length_singleton] at hlt
    rcases Nat.lt_succ_iff_lt_or_eq.mp hlt with hbefore | rfl
    · rwa [List.getElem?_append_left hbefore] at hc
    · rw [List.getElem?_concat_length, Option.some.injEq] at hc
      exact absurd hc.symm (hkept hafter (by rw [List.length_append, List.length_singleton]))
  · exact hc

/-- A character that does not end a line stands in its line at its column. -/
theorem IsShown.getElem?_column {before tail head after shown rest : Text} {c : Char}
    (h : IsShown (tail ++ head) after shown) (hline : HasLine (before ++ tail ++ (head ++ after)) before
      (tail ++ head) after) (hright : c :: rest = head ++ after) (hfeed : c ≠ '\n')
    (hreturn : ¬(c = '\r' ∧ rest.head? = some '\n')) : shown[tail.length]? = some c := by
  cases head with
  | nil =>
      obtain hnil | hhead := hline.ends
      · rw [hnil] at hright
        cases hright
      · rw [List.nil_append] at hright
        rw [← hright, List.head?_cons, Option.some.injEq] at hhead
        exact absurd hhead hfeed
  | cons d head =>
      rw [List.cons_append, List.cons.injEq] at hright
      obtain ⟨rfl, rfl⟩ := hright
      refine h.getElem?_eq ?_ fun hafter hlast hc => hreturn ⟨hc, ?_⟩
      · rw [List.getElem?_append_right (Nat.le_refl _), Nat.sub_self]
        rfl
      · have hhead : head = [] := by
          rw [List.length_append, List.length_cons] at hlast
          exact List.length_eq_zero_iff.mp (by omega)
        rw [hhead, List.nil_append]
        exact hline.ends.resolve_left hafter

theorem HasLine.start_within {before tail head after : Text} {offset : Nat}
    (hline : HasLine (before ++ tail ++ (head ++ after)) before (tail ++ head) after)
    (hfront : IsFront (before ++ tail) (before ++ tail ++ (head ++ after)) offset) :
    before.size ≤ offset ∧ offset ≤ size (before ++ (tail ++ head)) := by
  have hlow := hfront.size_le
  simp only [size_append] at hlow ⊢
  refine ⟨by omega, ?_⟩
  rcases hfront with ⟨hend, rfl⟩ | ⟨c, rest, hparts, -, hhigh⟩
  · obtain ⟨rfl, rfl⟩ := List.append_eq_nil_iff.mp (List.append_right_eq_self.mp hend.symm)
    simp
  · have hright := List.append_cancel_left hparts
    rw [size_append] at hhigh
    cases head with
    | nil =>
        rcases hline.ends with rfl | hfeed
        · cases hright
        · rw [List.nil_append] at hright
          rw [hright, List.head?_cons, Option.some.injEq] at hfeed
          subst hfeed
          have hone : '\n'.utf8Size = 1 := rfl
          omega
    | cons d head =>
        obtain ⟨rfl, -⟩ := List.cons.inj hright
        rw [size_cons]
        omega

/-- At the end of a text without a last line, the line of the offset is empty. -/
theorem eq_nil_of_isFront_size {before tail head after : Text}
    (hfront : IsFront (before ++ tail) (before ++ tail ++ (head ++ after))
      (size (before ++ tail ++ (head ++ after))))
    (hcolumn : tail.length = column (before ++ tail))
    (hlast : before ++ tail ++ (head ++ after) = [] ∨
      (before ++ tail ++ (head ++ after)).getLast? = some '\n') : tail ++ head = [] := by
  have hsize := hfront.size_eq (isBoundary_size _)
  rw [size_append (before ++ tail), Nat.left_eq_add, size_eq_zero_iff] at hsize
  rw [hsize, List.append_nil] at hlast
  rw [column_of_getLast? hlast, List.length_eq_zero_iff] at hcolumn
  rw [hcolumn, (List.append_eq_nil_iff.mp hsize).1, List.append_nil]

theorem IsShown.eq_nil {after shown : Text} (h : IsShown [] after shown) : shown = [] := by
  obtain ⟨-, hcontent⟩ | ⟨rfl, -⟩ := h
  · exact absurd hcontent.symm (List.append_ne_nil_of_right_ne_nil _ (List.cons_ne_nil _ _))
  · rfl

end Text

/-! ### Rows of a report -/

namespace Terminal

/-- How far the rows of a source line and its underline are indented by the number of the line. -/
def indent (diagnostic : Diagnostic) : Nat :=
  (toString (diagnostic.range.start.line + 1)).length + 3

/-- The row with the line of the source. -/
def sourceRow (diagnostic : Diagnostic) (line : Text) : String :=
  toString (diagnostic.range.start.line + 1) ++ " | " ++ String.ofList line

/-- The row with the underline, which is red. -/
def underlineRow (diagnostic : Diagnostic) (carets : Nat) : String :=
  blanks (toString (diagnostic.range.start.line + 1)).length ++ " | " ++
    blanks diagnostic.range.start.column ++
      ("\x1b[31m" ++ String.ofList (List.replicate carets '^') ++ "\x1b[0m")

/-- The rows above the line of the source: the message after a gray code, the place in cyan, and an
empty row. -/
def rowsAbove (diagnostic : Diagnostic) : List String :=
  let number := toString (diagnostic.range.start.line + 1)
  ["(" ++ ("\x1b[38;5;8m" ++ diagnostic.code ++ "\x1b[0m") ++ ") " ++ diagnostic.message,
    "\x1b[38;5;14m" ++ (blanks number.length ++ "--> " ++ (diagnostic.specifier.render ++ ":" ++ number ++
      ":" ++ toString (diagnostic.range.start.column + 1))) ++ "\x1b[0m",
    blanks number.length ++ " |"]

/-- The rows below the underline. -/
def rowsBelow (diagnostic : Diagnostic) : List String :=
  (diagnostic.hint.map fun hint =>
    [blanks (toString (diagnostic.range.start.line + 1)).length ++ " = hint: " ++ hint]).getD []

theorem render?_eq {diagnostic : Diagnostic} {source : Text} {carets : Nat}
    (h : caretCount? diagnostic.range (source.line diagnostic.range.start.line) = some carets) :
    render? diagnostic source = some (String.intercalate "\n" (rowsAbove diagnostic ++
      [sourceRow diagnostic (source.line diagnostic.range.start.line), underlineRow diagnostic carets] ++
      rowsBelow diagnostic)) := by
  rw [render?, h]
  rfl

@[simp] theorem length_blanks (count : Nat) : (blanks count).length = count := by
  simp [blanks]

theorem sourceRow_toList_getElem? (diagnostic : Diagnostic) (shown : Text) (index : Nat) :
    (sourceRow diagnostic shown).toList[indent diagnostic + index]? = shown[index]? := by
  have hindent : (toString (diagnostic.range.start.line + 1) ++ " | ").toList.length =
      indent diagnostic := by
    rw [String.toList_append, List.length_append, String.length_toList]
    rfl
  rw [sourceRow, String.toList_append, String.toList_ofList, ← hindent,
    List.getElem?_append_right (Nat.le_add_right _ _), Nat.add_sub_cancel_left]

/-- The carets start as far to the right as the column says. -/
theorem underlineRow_eq (diagnostic : Diagnostic) (carets : Nat) : ∃ margin,
    underlineRow diagnostic carets =
      margin ++ ("\x1b[31m" ++ String.ofList (List.replicate carets '^') ++ "\x1b[0m") ∧
    margin.length = indent diagnostic + diagnostic.range.start.column := by
  refine ⟨_, rfl, ?_⟩
  rw [String.length_append, String.length_append, length_blanks, length_blanks]
  rfl

theorem caretCount?_pos {range : Range} {line : Text} {carets : Nat}
    (h : caretCount? range line = some carets) : 0 < carets := by
  unfold caretCount? at h
  split_ifs at h <;> cases h <;> exact Nat.le_max_left _ _

/-- The underline of a range that does not run backwards does not run backwards either. -/
theorem exists_caretCount? {range : Range} (h : range.start.place ≤ range.stop.place) (line : Text) :
    ∃ carets, caretCount? range line = some carets := by
  rw [Position.place, Position.place, Prod.Lex.toLex_le_toLex] at h
  unfold caretCount?
  split_ifs with hline hcolumn
  · exact ⟨_, rfl⟩
  · obtain hlt | ⟨-, hle⟩ := h
    · exact absurd hline (Nat.ne_of_lt hlt)
    · exact absurd hle hcolumn
  · exact ⟨_, rfl⟩

end Terminal

/-! ### Reports of a text -/

theorem Finding.exists_locate (specifier : Url) {text : Text} {finding : Finding}
    (hstart : finding.span.start ≤ text.size) (hstop : finding.span.stop ≤ text.size) :
    ∃ diagnostic, finding.locate specifier text = .ok diagnostic := by
  obtain ⟨_, hfront⟩ := Text.exists_isFront hstart
  obtain ⟨_, hfront'⟩ := Text.exists_isFront hstop
  rw [Finding.locate, hfront.position_eq, hfront'.position_eq]
  exact ⟨_, rfl⟩

/-- A diagnostic that does not run backwards has an underline. -/
theorem Finding.exists_caretCount? {specifier : Url} {text : Text} {finding : Finding}
    {diagnostic : Diagnostic} (hlocate : finding.locate specifier text = .ok diagnostic)
    (hforward : finding.span.start ≤ finding.span.stop) (line : Text) :
    ∃ carets, Terminal.caretCount? diagnostic.range line = some carets := by
  obtain ⟨hstart, hstop⟩ := Finding.position_of_locate hlocate
  exact Terminal.exists_caretCount? (Text.place_le_of_le hforward hstart hstop) line

/-- What rules find in a text is made of findings. -/
theorem exists_locate_of_lintTree {rules : List Rule} {specifier : Url} {text : Text} {tree : Tree}
    {diagnostics : List Diagnostic} (h : lintTree rules specifier text tree = .ok diagnostics)
    {diagnostic : Diagnostic} (hmem : diagnostic ∈ diagnostics) :
    ∃ finding : Finding, finding.locate specifier text = .ok diagnostic := by
  obtain ⟨lists, heach, hpure⟩ := bind_eq_ok_iff.mp h
  cases hpure
  obtain ⟨found, hfound, hmem⟩ := List.mem_flatten.mp hmem
  obtain ⟨rule, -, hrule⟩ := exists_partner (forall₂_of_mapM_eq_ok heach) hfound
  obtain ⟨findings, -, hlocated⟩ := bind_eq_ok_iff.mp hrule
  obtain ⟨finding, -, hlocate⟩ := exists_partner (forall₂_of_mapM_eq_ok hlocated) hmem
  exact ⟨finding, hlocate⟩

/-- Whatever linting finds in a text can be reported, unless it runs backwards. -/
theorem exists_render?_of_lintText {parser : Parser} {rules : List Rule} {specifier : Url} {text : Text}
    {diagnostics : List Diagnostic} (h : lintText parser rules specifier text = .ok diagnostics)
    {diagnostic : Diagnostic} (hmem : diagnostic ∈ diagnostics)
    (hforward : diagnostic.range.start.byte ≤ diagnostic.range.stop.byte) :
    ∃ printed, Terminal.render? diagnostic text = some printed := by
  obtain ⟨tree, -, hlint⟩ := lintText_eq_ok_iff.mp h
  obtain ⟨finding, hlocate⟩ := exists_locate_of_lintTree hlint hmem
  obtain ⟨hstart, hstop⟩ := Finding.position_of_locate hlocate
  rw [Text.byte_of_position hstart, Text.byte_of_position hstop] at hforward
  obtain ⟨carets, hcarets⟩ := Finding.exists_caretCount? hlocate hforward
    (text.line diagnostic.range.start.line)
  exact ⟨_, Terminal.render?_eq hcarets⟩

/-- **Reports show the line that a diagnostic starts in.** A diagnostic of a text whose start is no
later than its end can be reported. The report shows the line of the text that holds the start, without
its line feed and without a carriage return just before that; at the end of a text without a last line
it shows the empty line. If the character at the start does not end the line, it stands in the line that
is shown at the column of the diagnostic, above the first caret. -/
theorem render?_shows_line (specifier : Url) (text : Text) (finding : Finding)
    (hforward : finding.span.start ≤ finding.span.stop) (hwithin : finding.span.stop ≤ text.size) :
    ∃ diagnostic before content after shown carets,
      finding.locate specifier text = .ok diagnostic ∧
      Terminal.render? diagnostic text = some (String.intercalate "\n" (Terminal.rowsAbove diagnostic ++
        [Terminal.sourceRow diagnostic shown, Terminal.underlineRow diagnostic carets] ++
        Terminal.rowsBelow diagnostic)) ∧
      (0 < carets ∧ ∃ margin, Terminal.underlineRow diagnostic carets =
          margin ++ ("\x1b[31m" ++ String.ofList (List.replicate carets '^') ++ "\x1b[0m") ∧
        margin.length = Terminal.indent diagnostic + diagnostic.range.start.column) ∧
      (text.HasLine before content after ∧ before.size ≤ finding.span.start ∧
        finding.span.start ≤ Text.size (before ++ content)) ∧
      Text.IsShown content after shown ∧
      (finding.span.start = text.size → text = [] ∨ text.getLast? = some '\n' → shown = []) ∧
      ∀ (front : Text) (c : Char) (rest : Text), text = front ++ c :: rest →
        front.size ≤ finding.span.start → finding.span.start < front.size + c.utf8Size →
        c ≠ '\n' → ¬(c = '\r' ∧ rest.head? = some '\n') →
        shown[diagnostic.range.start.column]? = some c ∧
          (Terminal.sourceRow diagnostic shown).toList[Terminal.indent diagnostic +
            diagnostic.range.start.column]? = some c := by
  have hinside : finding.span.start ≤ text.size := Nat.le_trans hforward hwithin
  obtain ⟨diagnostic, hlocate⟩ := Finding.exists_locate specifier hinside hwithin
  obtain ⟨front, hfront⟩ := Text.exists_isFront hinside
  obtain ⟨right, rfl⟩ := hfront.exists_append
  have hplace : diagnostic.range.start = ⟨front.count '\n', front.column, finding.span.start⟩ :=
    Except.ok.inj ((Finding.position_of_locate hlocate).1.symm.trans hfront.position_eq)
  obtain ⟨before, tail, head, after, rfl, rfl, hhas, hcount, hcolumn⟩ := Text.exists_hasLine front right
  have hshown := hhas.isShown
  have hline : diagnostic.range.start.line = List.count '\n' (before ++ tail) := by rw [hplace]
  rw [hcount, ← hline] at hshown
  obtain ⟨carets, hcarets⟩ := Finding.exists_caretCount? hlocate hforward
    (Text.line (before ++ tail ++ (head ++ after)) diagnostic.range.start.line)
  refine ⟨diagnostic, before, tail ++ head, after, _, carets, hlocate, Terminal.render?_eq hcarets,
    ⟨Terminal.caretCount?_pos hcarets, Terminal.underlineRow_eq diagnostic carets⟩,
    ⟨hhas, hhas.start_within hfront⟩, hshown, fun hend hlast => ?_,
    fun other c rest hparts hlow hhigh hfeed hreturn => ?_⟩
  · rw [hend] at hfront
    rw [Text.eq_nil_of_isFront_size hfront hcolumn hlast] at hshown
    exact hshown.eq_nil
  · have hother := hfront.unique (Or.inr ⟨c, rest, hparts, hlow, hhigh⟩)
    rw [← hother] at hparts
    have hindex : diagnostic.range.start.column = tail.length := by rw [hplace, hcolumn]
    have hchar := hshown.getElem?_column hhas (List.append_cancel_left hparts).symm hfeed hreturn
    rw [← hindex] at hchar
    exact ⟨hchar, (Terminal.sourceRow_toList_getElem? diagnostic _ _).trans hchar⟩

namespace MixedEndings

/-- A finding at the character behind the separator, up to the end of the text. -/
def finding : Finding :=
  ⟨⟨7, 11⟩, "endings", "Lines end in several ways", none, []⟩

/-- The diagnostic for the finding. -/
def diagnostic : Diagnostic :=
  ⟨SourceFile.exampleUrl, ⟨⟨1, 1, 7⟩, ⟨2, 1, 11⟩⟩, "Lines end in several ways", "endings", none, []⟩

end MixedEndings

theorem mixedEndings_shows_line :
    (MixedEndings.finding.span.start ≤ MixedEndings.finding.span.stop ∧
      MixedEndings.finding.span.stop ≤ MixedEndings.text.size) ∧
    MixedEndings.finding.locate SourceFile.exampleUrl MixedEndings.text = .ok MixedEndings.diagnostic ∧
    Terminal.render? MixedEndings.diagnostic MixedEndings.text = some (String.intercalate "\n" [
      "(\x1b[38;5;8mendings\x1b[0m) Lines end in several ways",
      "\x1b[38;5;14m --> file:///main.ts:2:2\x1b[0m",
      "  |",
      "2 | \u2028x",
      "  |  \x1b[31m^^^\x1b[0m"]) ∧
    ∃ shown carets,
      Terminal.render? MixedEndings.diagnostic MixedEndings.text =
        some (String.intercalate "\n" (Terminal.rowsAbove MixedEndings.diagnostic ++
          [Terminal.sourceRow MixedEndings.diagnostic shown,
            Terminal.underlineRow MixedEndings.diagnostic carets] ++
          Terminal.rowsBelow MixedEndings.diagnostic)) ∧
      shown[1]? = some 'x' := by
  have hforward : MixedEndings.finding.span.start ≤ MixedEndings.finding.span.stop := by decide
  have hwithin : MixedEndings.finding.span.stop ≤ MixedEndings.text.size := by decide
  obtain ⟨diagnostic, _, _, _, shown, carets, hlocate, hrender, -, -, -, -, hchar⟩ :=
    render?_shows_line SourceFile.exampleUrl MixedEndings.text MixedEndings.finding hforward hwithin
  obtain rfl : MixedEndings.diagnostic = diagnostic :=
    Except.ok.inj (Eq.trans (by decide +kernel) hlocate)
  obtain ⟨hshown, -⟩ := hchar "é\r\n\u2028".toList 'x' "\r\ny".toList (by decide) (by decide) (by decide)
    (by decide) (by decide)
  exact ⟨⟨hforward, hwithin⟩, hlocate, by decide +kernel, shown, carets, hrender, hshown⟩

end BraceLint
