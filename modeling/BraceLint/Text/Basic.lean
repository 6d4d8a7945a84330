/-!
Texts as lists of characters, measured in UTF-8 bytes. Offsets and spans count bytes, so an offset
may fall inside a character; the readers below say so by answering `none`. A text is cut only at
offsets between characters. A byte order mark may stand before a source, but it is no part of the text:
whatever is said about linting and fixing is about texts that have lost it, and offsets count from
behind it.
-/

namespace BraceLint

/-- The characters of a source file, in order. -/
abbrev Text := List Char

/-- A half-open range of byte offsets. Nothing forces `start ≤ stop`: reports of a host may hold any
two offsets. -/
structure Span where
  start : Nat
  stop : Nat
deriving DecidableEq, Repr

namespace Span

/-- The number of different offsets. Offsets are words of 32 bits. -/
def offsetCount : Nat := 4294967296

/-- The span between two numbers as offsets. A number that is too large starts over at zero. -/
def ofNumbers (start stop : Nat) : Span :=
  ⟨start % offsetCount, stop % offsetCount⟩

end Span

namespace Text

/-- The text of a source that may start with a byte order mark. -/
def dropMark : Text → Text
  | [] => []
  | c :: source => if c = '\ufeff' then source else c :: source

/-- The UTF-8 length of a text in bytes. -/
def size : Text → Nat
  | [] => 0
  | c :: text => c.utf8Size + size text

@[simp] theorem size_nil : size [] = 0 := rfl

@[simp] theorem size_cons (c : Char) (text : Text) : size (c :: text) = c.utf8Size + size text := rfl

@[simp] theorem size_append (left right : Text) : size (left ++ right) = size left + size right := by
  induction left with
  | nil => simp
  | cons c left ih => rw [List.cons_append, size_cons, size_cons, ih, Nat.add_assoc]

/-- The text cut in two at a byte offset. There is no such cut when the offset falls inside a
character or beyond the end. -/
def cut? : Text → Nat → Option (Text × Text)
  | text, 0 => some ([], text)
  | [], _ + 1 => none
  | c :: text, offset + 1 =>
    if c.utf8Size ≤ offset + 1 then
      (cut? text (offset + 1 - c.utf8Size)).map fun halves => (c :: halves.1, halves.2)
    else
      none

/-- The characters between two byte offsets. There are none to give when an offset falls inside a
character or beyond the end, or when the range runs backwards. -/
def slice? (text : Text) (span : Span) : Option Text := do
  guard (span.start ≤ span.stop)
  let (_, rest) ← cut? text span.start
  let (middle, _) ← cut? rest (span.stop - span.start)
  return middle

/-- The two halves of a cut are the whole text, and the first has as many bytes as the offset. -/
theorem append_of_cut? {text left right : Text} {offset : Nat}
    (h : cut? text offset = some (left, right)) : left ++ right = text ∧ size left = offset := by
  induction text, offset using cut?.induct generalizing left right with
  | case1 text => simp_all [cut?]
  | case2 offset => simp [cut?] at h
  | case3 offset c text hfits ih =>
    rw [cut?, if_pos hfits] at h
    obtain ⟨⟨first, second⟩, hcut, heq⟩ := Option.map_eq_some_iff.1 h
    obtain ⟨rfl, rfl⟩ := Prod.mk.inj heq
    obtain ⟨happend, hsize⟩ := ih hcut
    simp only [List.cons_append, happend, size_cons, hsize, true_and]
    omega
  | case4 offset c text hinside => simp [cut?, hinside] at h

/-- Every text whose first part has `offset` bytes is cut there. -/
theorem cut?_append (left right : Text) : cut? (left ++ right) (size left) = some (left, right) := by
  induction left with
  | nil => cases right <;> rfl
  | cons c left ih =>
    have hpos := Char.utf8Size_pos c
    obtain ⟨n, hn⟩ : ∃ n, size (c :: left) = n + 1 := ⟨size (c :: left) - 1, by simp; omega⟩
    have hrest : n + 1 - c.utf8Size = size left := by simp at hn; omega
    have hfits : c.utf8Size ≤ n + 1 := by simp at hn; omega
    rw [hn, List.cons_append, cut?, if_pos hfits, hrest, ih]
    rfl

end Text

end BraceLint
