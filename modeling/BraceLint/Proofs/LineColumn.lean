import BraceLint.Proofs.Splicing
import Mathlib.Data.Prod.Lex

/-! Bytes, lines and columns are three measures of one text. All of them are read off the front of an
offset, which is the text before the character there: the line counts its line feeds and the column its
characters after the last of these. Fronts of later offsets are longer, so positions go up with
offsets, and walking the text leads from a line and a column back to where the front ends. -/

namespace BraceLint

namespace Text

/-- The text before the character that holds the byte at an offset. At the end of a text this is all
of it. -/
def IsFront (front text : Text) (offset : Nat) : Prop :=
  (front = text ∧ offset = text.size) ∨
    ∃ c rest, text = front ++ c :: rest ∧ front.size ≤ offset ∧ offset < front.size + c.utf8Size

section Fronts

variable {text front front' : Text} {offset offset' : Nat}

theorem isFront_size (front right : Text) : IsFront front (front ++ right) front.size := by
  cases right with
  | nil => exact Or.inl (by rw [List.append_nil]; exact ⟨rfl, rfl⟩)
  | cons c rest => exact Or.inr ⟨c, rest, rfl, Nat.le_refl _, Nat.lt_add_of_pos_right (Char.utf8Size_pos c)⟩

theorem exists_isFront (h : offset ≤ text.size) : ∃ front, IsFront front text offset := by
  by_cases hboundary : text.IsBoundary offset
  · obtain ⟨left, right, rfl, rfl⟩ := hboundary
    exact ⟨left, isFront_size left right⟩
  · obtain ⟨left, c, rest, htext, hlow, hhigh⟩ := inCharacter_iff.mpr ⟨h, hboundary⟩
    exact ⟨left, Or.inr ⟨c, rest, htext, Nat.le_of_lt hlow, hhigh⟩⟩

theorem IsFront.size_le (h : IsFront front text offset) : front.size ≤ offset := by
  rcases h with ⟨rfl, rfl⟩ | ⟨_, _, _, hle, _⟩
  · exact Nat.le_refl _
  · exact hle

theorem IsFront.exists_append (h : IsFront front text offset) : ∃ right, text = front ++ right := by
  rcases h with ⟨rfl, -⟩ | ⟨c, rest, htext, -⟩
  · exact ⟨[], (List.append_nil _).symm⟩
  · exact ⟨c :: rest, htext⟩

/-- An offset between characters is where its front ends. -/
theorem IsFront.size_eq (h : IsFront front text offset) (hboundary : text.IsBoundary offset) :
    front.size = offset := by
  rcases h with ⟨rfl, rfl⟩ | ⟨c, rest, rfl, hle, hlt⟩
  · rfl
  · by_contra hne
    have := hboundary.not_inside (Nat.lt_of_le_of_ne hle hne)
    omega

/-- The front of a later offset starts with the front of an earlier one. -/
theorem IsFront.exists_between (h : IsFront front text offset) (h' : IsFront front' text offset')
    (hle : offset ≤ offset') : ∃ between, front' = front ++ between := by
  obtain ⟨right, htext⟩ := h.exists_append
  have hsize := h.size_le
  rcases h' with ⟨rfl, -⟩ | ⟨c, rest, htext', -, hlt⟩
  · exact ⟨right, htext⟩
  · rcases Nat.le_total front.size front'.size with hshort | hlong
    · obtain ⟨between, hbetween, -⟩ := Text.exists_between (htext.symm.trans htext') hshort
      exact ⟨between, hbetween⟩
    · obtain ⟨between, hbetween, hrest⟩ := Text.exists_between (htext'.symm.trans htext) hlong
      cases between with
      | nil => exact ⟨[], by rw [hbetween, List.append_nil, List.append_nil]⟩
      | cons d between =>
          -- The longer front would hold the whole character that the later offset is in.
          obtain ⟨rfl, -⟩ := List.cons.inj hrest
          rw [hbetween, size_append, size_cons] at hsize
          omega

theorem IsFront.unique (h : IsFront front text offset) (h' : IsFront front' text offset) :
    front = front' := by
  obtain ⟨between, hlonger⟩ := h.exists_between h' (Nat.le_refl _)
  obtain ⟨between', hshorter⟩ := h'.exists_between h (Nat.le_refl _)
  have hlength := congrArg List.length hshorter
  rw [hlonger, List.length_append, List.length_append] at hlength
  have hnil : between = [] := List.length_eq_zero_iff.mp (by omega)
  rw [hlonger, hnil, List.append_nil]

end Fronts

/-! ### Positions -/

theorem locate?_inside {left rest : Text} {c : Char} {offset : Nat} (hlow : left.size ≤ offset)
    (hhigh : offset < left.size + c.utf8Size) (line column : Nat) :
    locate? (left ++ c :: rest) offset line column =
      locate? (left ++ c :: rest) left.size line column := by
  induction left generalizing offset line column with
  | nil =>
      rw [size_nil, Nat.zero_add] at hhigh
      rw [List.nil_append, locate?, locate?, if_pos hhigh, size_nil, if_pos (Char.utf8Size_pos c)]
  | cons d left ih =>
      have hrest : ∀ line column, locate? (left ++ c :: rest) (offset - d.utf8Size) line column =
          locate? (left ++ c :: rest) (size (d :: left) - d.utf8Size) line column := by
        rw [size_cons] at hlow hhigh
        rw [size_cons, Nat.add_sub_cancel_left]
        exact ih (by omega) (by omega)
      have hpast : ¬offset < d.utf8Size := by
        rw [size_cons] at hlow
        omega
      have hpast' : ¬size (d :: left) < d.utf8Size := by
        rw [size_cons]
        omega
      simp only [List.cons_append, locate?, if_neg hpast, if_neg hpast', hrest]

theorem locate?_size (left right : Text) :
    locate? (left ++ right) left.size 0 0 = some (left.count '\n', left.column) := by
  rw [locate?_append, Nat.zero_add]
  split_ifs with hmem
  · rfl
  · rw [column_of_not_mem hmem, Nat.zero_add]

theorem IsFront.position_eq {text front : Text} {offset : Nat} (h : IsFront front text offset) :
    text.position offset = .ok ⟨front.count '\n', front.column, offset⟩ := by
  have hplace : text.locate? offset 0 0 = some (front.count '\n', front.column) := by
    rcases h with ⟨rfl, rfl⟩ | ⟨c, rest, rfl, hlow, hhigh⟩
    · simpa using locate?_size front []
    · rw [locate?_inside hlow hhigh, locate?_size]
  rw [position, position?, hplace]
  rfl

theorem locate?_eq_none_iff {text : Text} {offset line column : Nat} :
    locate? text offset line column = none ↔ text.size < offset := by
  induction text generalizing offset line column with
  | nil =>
      rw [locate?, size_nil, Nat.pos_iff_ne_zero]
      split_ifs with hzero <;> simp [hzero]
  | cons c text ih =>
      rw [locate?, size_cons]
      split_ifs with hinside
      · refine iff_of_false not_false ?_
        omega
      all_goals
        rw [ih]
        omega

/-- Exactly the offsets beyond a text have no position in it. -/
theorem position_eq_error_iff {text : Text} {offset : Nat} {fault : Fault} :
    text.position offset = .error fault ↔ text.size < offset ∧ fault = .outside offset := by
  rw [← @locate?_eq_none_iff text offset 0 0, position, position?]
  cases text.locate? offset 0 0 with
  | none => simp [eq_comm]
  | some place => simp

/-! ### Lines and columns go up -/

theorem column_append (left between : Text) : column (left ++ between) =
    if '\n' ∈ between then column between else column left + between.length := by
  induction left with
  | nil =>
      split_ifs with hmem
      · rfl
      · rw [List.nil_append, column_of_not_mem hmem]
        exact (Nat.zero_add _).symm
  | cons c left ih =>
      rw [List.cons_append, column_cons, column_cons, ih]
      by_cases hmem : '\n' ∈ between
      · simp [hmem]
      · by_cases hleft : '\n' ∈ left
        · simp [hmem, hleft]
        · simp only [List.mem_append, hmem, hleft, or_self, if_false, List.length_append]
          split_ifs <;> omega

end Text

/-- The line and the column of a position, ordered by line first. -/
def Position.place (position : Position) : Nat ×ₗ Nat :=
  toLex (position.line, position.column)

namespace Text

theorem place_lt_append (front : Text) {between : Text} (hne : between ≠ []) (first second : Nat) :
    Position.place ⟨front.count '\n', front.column, first⟩ <
      Position.place ⟨(front ++ between).count '\n', (front ++ between).column, second⟩ := by
  rw [Position.place, Position.place, Prod.Lex.toLex_lt_toLex, List.count_append, column_append]
  by_cases hmem : '\n' ∈ between
  · left
    have := List.count_pos_iff.mpr hmem
    show front.count '\n' < front.count '\n' + between.count '\n'
    omega
  · right
    have := List.length_pos_iff.mpr hne
    rw [if_neg hmem, List.count_eq_zero_of_not_mem hmem]
    exact ⟨rfl, by show front.column < front.column + between.length; omega⟩

section Order

variable {text front : Text} {first second : Nat} {position position' : Position}

theorem exists_isFront_of_position (h : text.position first = .ok position) :
    ∃ front, IsFront front text first ∧ position = ⟨front.count '\n', front.column, first⟩ := by
  have hle : first ≤ text.size := by
    by_contra hbeyond
    rw [position_eq_error_iff.mpr ⟨Nat.lt_of_not_le hbeyond, rfl⟩] at h
    cases h
  obtain ⟨front, hfront⟩ := exists_isFront hle
  rw [hfront.position_eq] at h
  exact ⟨front, hfront, (Except.ok.inj h).symm⟩

theorem place_le_of_le (hle : first ≤ second) (h : text.position first = .ok position)
    (h' : text.position second = .ok position') : position.place ≤ position'.place := by
  obtain ⟨front, hfront, rfl⟩ := exists_isFront_of_position h
  obtain ⟨front', hfront', rfl⟩ := exists_isFront_of_position h'
  obtain ⟨between, rfl⟩ := hfront.exists_between hfront' hle
  by_cases hnil : between = []
  · subst hnil
    rw [List.append_nil]
    exact le_refl _
  · exact le_of_lt (place_lt_append front hnil first second)

/-- A character between two offsets keeps their places apart. -/
theorem place_lt_of_lt (hlt : first < second) (hboundary : text.IsBoundary second)
    (h : text.position first = .ok position) (h' : text.position second = .ok position') :
    position.place < position'.place := by
  obtain ⟨front, hfront, rfl⟩ := exists_isFront_of_position h
  obtain ⟨front', hfront', rfl⟩ := exists_isFront_of_position h'
  obtain ⟨between, rfl⟩ := hfront.exists_between hfront' (Nat.le_of_lt hlt)
  have hnonempty : between ≠ [] := by
    rintro rfl
    have hsize := hfront'.size_eq hboundary
    have hle := hfront.size_le
    rw [List.append_nil] at hsize
    omega
  exact place_lt_append front hnonempty first second

end Order

/-! ### Walking back -/

/-- Walks a text to a line and a column and gives the offset there. Nothing is there if the text has no
such line, or if the line ends before the column. -/
def offsetAt? : Text → (line column : Nat) → Option Nat
  | _, 0, 0 => some 0
  | [], _, _ => none
  | c :: text, 0, column + 1 =>
    if c = '\n' then none else (offsetAt? text 0 column).map (c.utf8Size + ·)
  | c :: text, line + 1, column =>
    (offsetAt? text (if c = '\n' then line else line + 1) column).map (c.utf8Size + ·)

/-- A front of a text has a number of line feeds, a number of characters after the last of them, and a
number of bytes. -/
def HasFront (text : Text) (line column offset : Nat) : Prop :=
  ∃ front right, text = front ++ right ∧ front.count '\n' = line ∧ front.column = column ∧
    front.size = offset

theorem hasFront_zero {text : Text} {offset : Nat} : HasFront text 0 0 offset ↔ offset = 0 := by
  constructor
  · rintro ⟨front, right, -, hcount, hcolumn, rfl⟩
    rw [column_of_not_mem (List.count_eq_zero.mp hcount), List.length_eq_zero_iff] at hcolumn
    rw [hcolumn, size_nil]
  · rintro rfl
    exact ⟨[], text, rfl, rfl, rfl, rfl⟩

theorem not_hasFront_nil {line column offset : Nat} (h : line = 0 → column = 0 → False) :
    ¬HasFront [] line column offset := by
  rintro ⟨front, right, hnil, rfl, rfl, -⟩
  obtain ⟨rfl, -⟩ := List.append_eq_nil_iff.mp hnil.symm
  exact h rfl rfl

/-- A front that is not empty is the first character and a front of the text behind it. -/
theorem hasFront_cons_iff {c : Char} {text : Text} {line column offset : Nat}
    (h : line = 0 → column = 0 → False) : HasFront (c :: text) line column offset ↔
      ∃ front right, text = front ++ right ∧ (c :: front).count '\n' = line ∧
        Text.column (c :: front) = column ∧ c.utf8Size + front.size = offset := by
  constructor
  · rintro ⟨front, right, htext, hcount, hcolumn, hsize⟩
    cases front with
    | nil => exact (h hcount.symm hcolumn.symm).elim
    | cons d front =>
        rw [List.cons_append, List.cons.injEq] at htext
        obtain ⟨rfl, htext⟩ := htext
        exact ⟨front, right, htext, hcount, hcolumn, hsize⟩
  · rintro ⟨front, right, rfl, hcount, hcolumn, hsize⟩
    exact ⟨c :: front, right, rfl, hcount, hcolumn, hsize⟩

theorem exists_hasFront_iff {text : Text} {width line column offset : Nat} :
    (∃ start, HasFront text line column start ∧ width + start = offset) ↔
      ∃ front right, text = front ++ right ∧ front.count '\n' = line ∧ front.column = column ∧
        width + front.size = offset := by
  constructor
  · rintro ⟨_, ⟨front, right, htext, hcount, hcolumn, rfl⟩, hsize⟩
    exact ⟨front, right, htext, hcount, hcolumn, hsize⟩
  · rintro ⟨front, right, htext, hcount, hcolumn, hsize⟩
    exact ⟨front.size, ⟨front, right, htext, hcount, hcolumn, rfl⟩, hsize⟩

/-- A line feed or a character before one does not change the column. -/
theorem column_cons_of_count {c : Char} {front : Text} (h : 0 < (c :: front).count '\n') :
    Text.column (c :: front) = front.column := by
  rw [column_cons]
  split_ifs with hmem hc
  · rfl
  · exact (column_of_not_mem hmem).symm
  · rw [List.count_cons_of_ne hc, List.count_eq_zero_of_not_mem hmem] at h
    exact absurd h (Nat.lt_irrefl 0)

theorem offsetAt?_eq_some_iff {text : Text} {line column offset : Nat} :
    text.offsetAt? line column = some offset ↔ HasFront text line column offset := by
  fun_induction offsetAt? text line column generalizing offset with
  | case1 text => rw [hasFront_zero, Option.some.injEq, eq_comm]
  | case2 line column hnonzero =>
      exact iff_of_false (Option.some_ne_none _).symm (not_hasFront_nil hnonzero)
  | case3 text column =>
      rw [hasFront_cons_iff fun _ => Nat.succ_ne_zero column]
      refine iff_of_false (Option.some_ne_none _).symm ?_
      rintro ⟨front, right, -, hcount, -⟩
      simp at hcount
  | case4 c text column hc ih =>
      rw [hasFront_cons_iff fun _ => Nat.succ_ne_zero column]
      simp only [Option.map_eq_some_iff, ih, exists_hasFront_iff, List.count_cons_of_ne hc]
      refine exists_congr fun front => exists_congr fun right => and_congr_right fun _ =>
        and_congr_right fun hcount => ?_
      have hmem := List.count_eq_zero.mp hcount
      rw [column_cons, if_neg hmem, if_neg hc, column_of_not_mem hmem, Nat.add_right_cancel_iff]
  | case5 c text line column ih =>
      rw [hasFront_cons_iff fun hline _ => Nat.succ_ne_zero line hline]
      simp only [Option.map_eq_some_iff, ih, exists_hasFront_iff]
      refine exists_congr fun front => exists_congr fun right => and_congr_right fun _ => ?_
      have hcount : (c :: front).count '\n' = line + 1 ↔
          front.count '\n' = if c = '\n' then line else line + 1 := by
        by_cases hc : c = '\n' <;> simp [hc]
      rw [← hcount]
      refine and_congr_right fun hline => ?_
      rw [column_cons_of_count (by omega)]

/-- **Positions are faithful.** The offsets of a text are those up to its size, and the others have no
position. A position has its offset, the line feeds before the character there and the characters
after the last of these, so all bytes of one character share line and column. Lines and columns go up
with offsets, strictly from one character to another, and walking to a line and a column leads back to
where the character starts. -/
theorem position_faithful (text : Text) :
    (∀ offset ≤ text.size, ∃! front, IsFront front text offset) ∧
    (∀ offset front, IsFront front text offset →
      text.position offset = .ok ⟨front.count '\n', front.column, offset⟩ ∧
      text.offsetAt? (front.count '\n') front.column = some front.size) ∧
    (∀ offset, (∃ fault, text.position offset = .error fault) ↔ text.size < offset) ∧
    (∀ first second earlier later, first ≤ second → text.position first = .ok earlier →
      text.position second = .ok later → earlier.place ≤ later.place) ∧
    (∀ first second earlier later, text.IsBoundary first → text.IsBoundary second →
      text.position first = .ok earlier → text.position second = .ok later →
      (first < second → earlier.place < later.place) ∧ (earlier.place = later.place → first = second)) ∧
    (∀ line column offset, text.offsetAt? line column = some offset ↔
      text.IsBoundary offset ∧ text.position offset = .ok ⟨line, column, offset⟩) := by
  refine ⟨fun offset hle => ?_, fun offset front hfront => ⟨hfront.position_eq, ?_⟩,
    fun offset => ?_, fun first second earlier later => place_le_of_le, ?_, fun line column offset => ?_⟩
  · obtain ⟨front, hfront⟩ := exists_isFront hle
    exact ⟨front, hfront, fun other hother => hother.unique hfront⟩
  · obtain ⟨right, htext⟩ := hfront.exists_append
    exact offsetAt?_eq_some_iff.mpr ⟨front, right, htext, rfl, rfl, rfl⟩
  · simp only [position_eq_error_iff, exists_and_left, exists_eq, and_true]
  · intro first second earlier later hfirst hsecond hearlier hlater
    refine ⟨fun hlt => place_lt_of_lt hlt hsecond hearlier hlater, fun heq => ?_⟩
    rcases Nat.lt_trichotomy first second with hlt | hsame | hgt
    · exact absurd heq (ne_of_lt (place_lt_of_lt hlt hsecond hearlier hlater))
    · exact hsame
    · exact absurd heq.symm (ne_of_lt (place_lt_of_lt hgt hfirst hlater hearlier))
  · rw [offsetAt?_eq_some_iff]
    constructor
    · rintro ⟨front, right, rfl, rfl, rfl, rfl⟩
      exact ⟨⟨front, right, rfl, rfl⟩, (isFront_size front right).position_eq⟩
    · rintro ⟨hboundary, hposition⟩
      obtain ⟨front, hfront, hplace⟩ := exists_isFront_of_position hposition
      obtain ⟨right, htext⟩ := hfront.exists_append
      cases hplace
      exact ⟨front, right, htext, rfl, rfl, hfront.size_eq hboundary⟩

end Text

/-- Three lines: a character of two bytes, then a separator that ends no line and a character of one
byte, then a line without a line end. -/
def MixedEndings.text : Text :=
  "é\r\n\u2028x\r\ny".toList

namespace Text

theorem mixedEndings_position_faithful :
    (IsFront [] MixedEndings.text 1 ∧ MixedEndings.text.position 1 = .ok ⟨0, 0, 1⟩) ∧
    (IsFront "é\r\n\u2028".toList MixedEndings.text 7 ∧
      MixedEndings.text.position 7 = .ok ⟨1, 1, 7⟩ ∧ MixedEndings.text.offsetAt? 1 1 = some 7) ∧
    (MixedEndings.text.size < 12 ∧ ∃ fault, MixedEndings.text.position 12 = .error fault) := by
  obtain ⟨-, hposition, hbeyond, -⟩ := position_faithful MixedEndings.text
  -- The second byte of the first character, and the character behind the separator.
  have hinside : IsFront [] MixedEndings.text 1 :=
    Or.inr ⟨'é', "\r\n\u2028x\r\ny".toList, by decide, by decide, by decide⟩
  have hbehind : IsFront "é\r\n\u2028".toList MixedEndings.text 7 :=
    Or.inr ⟨'x', "\r\ny".toList, by decide, by decide, by decide⟩
  have hsize : MixedEndings.text.size < 12 := by decide
  exact ⟨⟨hinside, (hposition 1 _ hinside).1⟩, ⟨hbehind, hposition 7 _ hbehind⟩, hsize,
    (hbeyond 12).mpr hsize⟩

end Text

end BraceLint
