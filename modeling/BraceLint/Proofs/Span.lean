import BraceLint.Edit
import Mathlib.Data.List.Basic

/-! Spans inside one another, spans apart from one another, and spans of whole characters of a text.
A span of whole characters is where its text can be cut out, so being such a span is the same as
having a slice. -/

namespace BraceLint

namespace Text

theorem size_eq_zero_iff {text : Text} : text.size = 0 ↔ text = [] := by
  cases text with
  | nil => simp
  | cons c text =>
      have hpos := Char.utf8Size_pos c
      simp only [size_cons, reduceCtorEq, iff_false]
      omega

/-- Of two cuts of one text, the earlier one cuts the first part of the later one. -/
theorem exists_between {left right left' right' : Text} (happend : left ++ right = left' ++ right')
    (hsize : left.size ≤ left'.size) : ∃ between, left' = left ++ between ∧ right = between ++ right' := by
  rcases List.append_eq_append_iff.mp happend with ⟨between, hleft, hright⟩ | ⟨between, hleft, hright⟩
  · exact ⟨between, hleft, hright⟩
  · have hzero : size between = 0 := by
      rw [hleft, size_append] at hsize
      omega
    have hnil := size_eq_zero_iff.mp hzero
    subst hnil
    exact ⟨[], by simp [hleft], by simp [hright]⟩

theorem append_inj_of_size {left right left' right' : Text} (happend : left ++ right = left' ++ right')
    (hsize : left.size = left'.size) : left = left' ∧ right = right' := by
  obtain ⟨between, rfl, rfl⟩ := exists_between happend (Nat.le_of_eq hsize)
  have hzero : size between = 0 := by
    rw [size_append] at hsize
    omega
  have hnil := size_eq_zero_iff.mp hzero
  subst hnil
  exact ⟨(List.append_nil _).symm, rfl⟩

theorem size_replicate (count : Nat) (c : Char) :
    size (List.replicate count c) = count * c.utf8Size := by
  induction count with
  | zero => exact (Nat.zero_mul _).symm
  | succ count ih => rw [List.replicate_succ, size_cons, ih, Nat.succ_mul, Nat.add_comm]

/-- An offset between two characters of a text, before the first one or after the last one. -/
def IsBoundary (text : Text) (offset : Nat) : Prop :=
  ∃ left right, text = left ++ right ∧ left.size = offset

theorem isBoundary_iff_isSome_cut? {text : Text} {offset : Nat} :
    text.IsBoundary offset ↔ (text.cut? offset).isSome := by
  constructor
  · rintro ⟨left, right, rfl, rfl⟩
    rw [cut?_append]
    rfl
  · intro hsome
    obtain ⟨⟨left, right⟩, hcut⟩ := Option.isSome_iff_exists.mp hsome
    obtain ⟨happend, hsize⟩ := append_of_cut? hcut
    exact ⟨left, right, happend.symm, hsize⟩

instance (text : Text) (offset : Nat) : Decidable (text.IsBoundary offset) :=
  decidable_of_iff _ isBoundary_iff_isSome_cut?.symm

theorem IsBoundary.le_size {text : Text} {offset : Nat} (h : text.IsBoundary offset) :
    offset ≤ text.size := by
  obtain ⟨left, right, rfl, rfl⟩ := h
  rw [size_append]
  exact Nat.le_add_right _ _

end Text

namespace Span

/-- A span lies inside another one. -/
def Inside (inner outer : Span) : Prop :=
  outer.start ≤ inner.start ∧ inner.stop ≤ outer.stop

/-- A span lies inside another one and is not all of it. -/
def StrictlyInside (inner outer : Span) : Prop :=
  inner.Inside outer ∧ inner ≠ outer

/-- Two spans have no byte in common: one ends before the other starts. -/
def Apart (left right : Span) : Prop :=
  left.stop ≤ right.start ∨ right.stop ≤ left.start

/-- The span is a run of whole characters of a text. -/
def IsIn (span : Span) (text : Text) : Prop :=
  span.start ≤ span.stop ∧ text.IsBoundary span.start ∧ text.IsBoundary span.stop

instance (inner outer : Span) : Decidable (inner.Inside outer) :=
  inferInstanceAs (Decidable (_ ∧ _))

instance (inner outer : Span) : Decidable (inner.StrictlyInside outer) :=
  inferInstanceAs (Decidable (_ ∧ _))

instance (left right : Span) : Decidable (left.Apart right) :=
  inferInstanceAs (Decidable (_ ∨ _))

instance (span : Span) (text : Text) : Decidable (span.IsIn text) :=
  inferInstanceAs (Decidable (_ ∧ _ ∧ _))

theorem Inside.trans {inner middle outer : Span} (hinner : inner.Inside middle)
    (houter : middle.Inside outer) : inner.Inside outer :=
  ⟨Nat.le_trans houter.1 hinner.1, Nat.le_trans hinner.2 houter.2⟩

theorem Inside.antisymm {left right : Span} (hleft : left.Inside right) (hright : right.Inside left) :
    left = right := by
  obtain ⟨start, stop⟩ := left
  obtain ⟨start', stop'⟩ := right
  rw [Span.mk.injEq]
  exact ⟨Nat.le_antisymm hright.1 hleft.1, Nat.le_antisymm hleft.2 hright.2⟩

/-- Spans that are apart are not one inside the other, unless the inner one is empty. -/
theorem Apart.not_inside {left right : Span} (h : left.Apart right) (hne : left.start < left.stop) :
    ¬left.Inside right := by
  rintro ⟨hstart, hstop⟩
  rcases h with h | h <;> omega

theorem Apart.symm {left right : Span} (h : left.Apart right) : right.Apart left :=
  Or.symm h

theorem Apart.mono {left right left' right' : Span} (h : left.Apart right)
    (hleft : left'.Inside left) (hright : right'.Inside right) : left'.Apart right' := by
  rcases h with h | h
  · exact Or.inl (Nat.le_trans hleft.2 (Nat.le_trans h hright.1))
  · exact Or.inr (Nat.le_trans hright.2 (Nat.le_trans h hleft.1))

/-- A run of whole characters has a text before it, a text of its own and a text after it. -/
theorem IsIn.exists_parts {span : Span} {text : Text} (h : span.IsIn text) :
    ∃ left piece right, text = left ++ piece ++ right ∧ left.size = span.start ∧
      (left ++ piece).size = span.stop := by
  obtain ⟨hle, ⟨left, rest, hleft, hstart⟩, ⟨front, right, hfront, hstop⟩⟩ := h
  obtain ⟨piece, rfl, -⟩ := Text.exists_between (hleft.symm.trans hfront) (by omega)
  exact ⟨left, piece, right, hfront, hstart, hstop⟩

theorem isIn_of_parts {span : Span} {left piece : Text} (right : Text) (hstart : left.size = span.start)
    (hstop : (left ++ piece).size = span.stop) : span.IsIn (left ++ piece ++ right) := by
  refine ⟨?_, ⟨left, piece ++ right, List.append_assoc _ _ _, hstart⟩, ⟨left ++ piece, right, rfl, hstop⟩⟩
  rw [← hstart, ← hstop, Text.size_append]
  exact Nat.le_add_right _ _

end Span

namespace Text

theorem slice?_parts {span : Span} {left piece right : Text} (hstart : left.size = span.start)
    (hstop : (left ++ piece).size = span.stop) :
    slice? (left ++ piece ++ right) span = some piece := by
  have hle : span.start ≤ span.stop := (Span.isIn_of_parts right hstart hstop).1
  have hsize : span.stop - span.start = piece.size := by
    rw [← hstart, ← hstop, size_append]
    omega
  rw [slice?, hsize, List.append_assoc, ← hstart, cut?_append]
  simp only [guard, hstart, hle, if_true, Option.pure_def, Option.bind_eq_bind, Option.bind_some,
    cut?_append]

/-- A slice is the text between a first and a last part of the whole. -/
theorem slice?_eq_some_iff {text piece : Text} {span : Span} :
    text.slice? span = some piece ↔ ∃ left right, text = left ++ piece ++ right ∧
      left.size = span.start ∧ (left ++ piece).size = span.stop := by
  constructor
  · intro hslice
    simp only [slice?, guard, Option.bind_eq_bind, Option.pure_def, Option.bind_eq_some_iff] at hslice
    obtain ⟨_, hguard, ⟨left, rest⟩, hleft, ⟨middle, right⟩, hmiddle, hpiece⟩ := hslice
    have hle : span.start ≤ span.stop := by
      by_contra hnot
      simp [hnot] at hguard
    obtain ⟨rfl, hstart⟩ := append_of_cut? hleft
    obtain ⟨rfl, hsize⟩ := append_of_cut? hmiddle
    cases hpiece
    refine ⟨left, right, (List.append_assoc _ _ _).symm, hstart, ?_⟩
    rw [size_append, hstart, hsize]
    omega
  · rintro ⟨left, right, rfl, hstart, hstop⟩
    exact slice?_parts hstart hstop

end Text

end BraceLint
