import BraceLint.Proofs.Span
import BraceLint.Rule.Curly
import Mathlib.Data.List.Induction

/-! Texts with braces around any number of bodies at once, and where the spans of the text lie
afterwards. Braces are counted at offsets, so the order in which the bodies are named does not matter,
and putting braces around one more body afterwards is the same as having named it before. -/

namespace BraceLint

/-- What stands at an offset once bodies are in braces: a closing brace for every body that ends
there, and after those an opening brace and a line feed for every body that starts there. -/
def bracesAt (bodies : List Span) (offset : Nat) : Text :=
  List.replicate (bodies.countP fun body => body.stop = offset) '\x7d' ++
    (List.replicate (bodies.countP fun body => body.start = offset) ['\x7b', '\n']).flatten

namespace Text

/-- A text with a piece put before each of its characters and one at its end, by their offsets. -/
def woven (pieces : Nat → Text) : Nat → Text → Text
  | offset, [] => pieces offset
  | offset, c :: text => pieces offset ++ c :: woven pieces (offset + c.utf8Size) text

/-- The same without the piece at the end. -/
def wovenInit (pieces : Nat → Text) : Nat → Text → Text
  | _, [] => []
  | offset, c :: text => pieces offset ++ c :: wovenInit pieces (offset + c.utf8Size) text

/-- Takes the pieces out of a text that they were put into. -/
def unwoven (pieces : Nat → Text) (offset : Nat) (text : Text) : Text :=
  match _hrest : text.drop (pieces offset).length with
  | [] => []
  | c :: rest => c :: unwoven pieces (offset + c.utf8Size) rest
termination_by text.length
decreasing_by
  have hlength := congrArg List.length _hrest
  simp only [List.length_drop, List.length_cons] at hlength
  omega

/-- The text with braces around bodies: an opening brace and a line feed before each of them and a
closing brace after each of them. -/
def braced (text : Text) (bodies : List Span) : Text :=
  woven (bracesAt bodies) 0 text

/-- Takes the braces around bodies out again. -/
def withoutBraces (text : Text) (bodies : List Span) : Text :=
  unwoven (bracesAt bodies) 0 text

end Text

/-- Where a span lies once bodies are in braces. What a body starts or ends before moves on by its
braces, and a body that ends together with the span has its closing brace inside the span exactly when
it starts later. -/
def Span.moved (span : Span) (bodies : List Span) : Span where
  start := span.start + 2 * (bodies.countP fun body => body.start ≤ span.start) +
    bodies.countP fun body => body.stop ≤ span.start
  stop := span.stop + 2 * (bodies.countP fun body => body.start < span.stop) +
    bodies.countP fun body =>
      body.stop < span.stop ∨ body.stop = span.stop ∧ span.start < body.start

/-! ### Weaving -/

namespace Text

variable {pieces pieces' : Nat → Text}

theorem wovenInit_append (offset : Nat) (left right : Text) :
    wovenInit pieces offset (left ++ right) =
      wovenInit pieces offset left ++ wovenInit pieces (offset + left.size) right := by
  induction left generalizing offset with
  | nil => rfl
  | cons c left ih =>
      rw [List.cons_append, wovenInit, wovenInit, ih, size_cons, Nat.add_assoc, List.append_assoc,
        List.cons_append]

theorem woven_append (offset : Nat) (left right : Text) :
    woven pieces offset (left ++ right) =
      wovenInit pieces offset left ++ woven pieces (offset + left.size) right := by
  induction left generalizing offset with
  | nil => rfl
  | cons c left ih =>
      rw [List.cons_append, wovenInit, woven, ih, size_cons, Nat.add_assoc, List.append_assoc,
        List.cons_append]

theorem woven_eq_wovenInit (offset : Nat) (text : Text) :
    woven pieces offset text = wovenInit pieces offset text ++ pieces (offset + text.size) := by
  have h : woven pieces offset (text ++ []) = _ := woven_append offset text []
  rwa [List.append_nil] at h

theorem wovenInit_congr {offset : Nat} {text : Text}
    (h : ∀ place, offset ≤ place → place < offset + text.size → pieces place = pieces' place) :
    wovenInit pieces offset text = wovenInit pieces' offset text := by
  induction text generalizing offset with
  | nil => rfl
  | cons c text ih =>
      have hpos := Char.utf8Size_pos c
      simp only [size_cons] at h
      rw [wovenInit, wovenInit, h offset (Nat.le_refl _) (by omega),
        ih fun place hlow hhigh => h place (by omega) (by omega)]

theorem wovenInit_eq_self {offset : Nat} {text : Text}
    (h : ∀ place, offset ≤ place → place < offset + text.size → pieces place = []) :
    wovenInit pieces offset text = text := by
  induction text generalizing offset with
  | nil => rfl
  | cons c text ih =>
      have hpos := Char.utf8Size_pos c
      simp only [size_cons] at h
      rw [wovenInit, h offset (Nat.le_refl _) (by omega),
        ih fun place hlow hhigh => h place (by omega) (by omega)]
      rfl

/-- A text begins with the piece at its start, and only that piece decides how it begins. -/
theorem exists_woven_eq_append (offset : Nat) (text : Text) :
    ∃ rest, woven pieces offset text = pieces offset ++ rest := by
  cases text with
  | nil => exact ⟨[], (List.append_nil _).symm⟩
  | cons c text => exact ⟨_, rfl⟩

theorem woven_of_head (front : Text) {offset : Nat} {text : Text}
    (hhead : pieces' offset = front ++ pieces offset)
    (hlater : ∀ place, offset < place → pieces' place = pieces place) :
    woven pieces' offset text = front ++ woven pieces offset text := by
  cases text with
  | nil => exact hhead
  | cons c text =>
      have hpos := Char.utf8Size_pos c
      have htail : woven pieces' (offset + c.utf8Size) text = woven pieces (offset + c.utf8Size) text := by
        rw [woven_eq_wovenInit, woven_eq_wovenInit, hlater _ (by omega),
          wovenInit_congr fun place hlow _ => hlater place (by omega)]
      rw [woven, woven, hhead, htail, List.append_assoc]

theorem unwoven_woven (offset : Nat) (text : Text) :
    unwoven pieces offset (woven pieces offset text) = text := by
  induction text generalizing offset with
  | nil =>
      rw [unwoven, woven]
      split
      · rfl
      · rename_i c rest h
        rw [List.drop_length] at h
        cases h
  | cons c text ih =>
      rw [unwoven, woven]
      split
      · rename_i h
        rw [List.drop_left] at h
        cases h
      · rename_i d rest h
        rw [List.drop_left] at h
        cases h
        rw [ih]

/-- Deleting the braces again gives the text back. -/
theorem withoutBraces_braced (text : Text) (bodies : List Span) :
    (text.braced bodies).withoutBraces bodies = text :=
  unwoven_woven 0 text

end Text

/-! ### Braces at an offset -/

theorem bracesAt_cons_of_ne {bodies : List Span} {body : Span} {offset : Nat}
    (hstart : offset ≠ body.start) (hstop : offset ≠ body.stop) :
    bracesAt (body :: bodies) offset = bracesAt bodies offset := by
  rw [bracesAt, bracesAt, List.countP_cons_of_neg (by simpa using hstop.symm),
    List.countP_cons_of_neg (by simpa using hstart.symm)]

theorem bracesAt_cons_start {bodies : List Span} {body : Span} (hne : body.start < body.stop) :
    bracesAt (body :: bodies) body.start = bracesAt bodies body.start ++ ['\x7b', '\n'] := by
  rw [bracesAt, bracesAt, List.countP_cons_of_neg (by simp; omega),
    List.countP_cons_of_pos (by simp), List.replicate_succ', List.flatten_append,
    List.append_assoc]
  rfl

theorem bracesAt_cons_stop {bodies : List Span} {body : Span} (hne : body.start < body.stop) :
    bracesAt (body :: bodies) body.stop = '\x7d' :: bracesAt bodies body.stop := by
  rw [bracesAt, bracesAt, List.countP_cons_of_pos (by simp),
    List.countP_cons_of_neg (by simp; omega), List.replicate_succ, List.cons_append]

theorem bracesAt_perm {bodies bodies' : List Span} (h : bodies.Perm bodies') (offset : Nat) :
    bracesAt bodies offset = bracesAt bodies' offset := by
  rw [bracesAt, bracesAt, h.countP_eq, h.countP_eq]

theorem size_bracesAt (bodies : List Span) (offset : Nat) :
    Text.size (bracesAt bodies offset) =
      2 * (bodies.countP fun body => body.start = offset) +
        bodies.countP fun body => body.stop = offset := by
  have hopen : ∀ count : Nat,
      Text.size (List.replicate count ['\x7b', '\n']).flatten = 2 * count := by
    intro count
    induction count with
    | zero => rfl
    | succ count ih =>
        rw [List.replicate_succ, List.flatten_cons, Text.size_append, ih]
        simp only [Text.size_cons, Text.size_nil, show Char.utf8Size '\x7b' = 1 by decide,
          show Char.utf8Size '\n' = 1 by decide]
        omega
  rw [bracesAt, Text.size_append, hopen, Text.size_replicate, show Char.utf8Size '\x7d' = 1 by decide,
    Nat.mul_one, Nat.add_comm]

/-! ### Counting offsets -/

section Count

variable {α : Type} (place : α → Nat) (items : List α)

/-- Of two conditions that exclude each other, each counts for itself. -/
theorem countP_or_eq (p q : α → Prop) [DecidablePred p] [DecidablePred q]
    (hpq : ∀ item, p item → ¬q item) :
    (items.countP fun item => p item ∨ q item) =
      (items.countP fun item => p item) + items.countP fun item => q item := by
  induction items with
  | nil => rfl
  | cons item items ih =>
      rw [List.countP_cons, List.countP_cons, List.countP_cons, ih]
      by_cases hp : p item
      · have hq := hpq item hp
        simp only [hp, hq, true_or, decide_true, decide_false, if_true, Bool.false_eq_true, if_false]
        omega
      · simp only [hp, false_or, decide_false, Bool.false_eq_true, if_false]
        omega

theorem countP_le_eq (bound : Nat) :
    (items.countP fun item => place item ≤ bound) =
      (items.countP fun item => place item < bound) + items.countP fun item => place item = bound := by
  rw [← countP_or_eq items _ _ fun item => Nat.ne_of_lt]
  simp only [Nat.le_iff_lt_or_eq]

/-- Where no offset falls strictly between two bounds, those below the second one are below the first
one or equal to it. -/
theorem countP_lt_add {bound width : Nat} (hwidth : 0 < width)
    (hgap : ∀ item ∈ items, bound < place item → bound + width ≤ place item) :
    (items.countP fun item => place item < bound + width) =
      (items.countP fun item => place item < bound) + items.countP fun item => place item = bound := by
  rw [← countP_le_eq]
  apply List.countP_congr
  intro item hmem
  have h := hgap item hmem
  simp only [decide_eq_true_eq]
  omega

end Count

namespace Text

/-- No boundary lies inside a character. -/
theorem IsBoundary.not_inside {left right : Text} {c : Char} {offset : Nat}
    (h : IsBoundary (left ++ c :: right) offset) (hafter : left.size < offset) :
    left.size + c.utf8Size ≤ offset := by
  obtain ⟨left', right', happend, rfl⟩ := h
  obtain ⟨between, rfl, hright⟩ := exists_between happend (Nat.le_of_lt hafter)
  cases between with
  | nil => simp at hafter
  | cons d between =>
      cases hright
      rw [size_append, size_cons]
      omega

/-- How far braces move the end of a first part of a text. -/
theorem size_wovenInit_bracesAt {bodies : List Span} {left : Text} (right : Text)
    (hbodies : ∀ body ∈ bodies, body.IsIn (left ++ right)) :
    size (wovenInit (bracesAt bodies) 0 left) =
      left.size + 2 * (bodies.countP fun body => body.start < left.size) +
        bodies.countP fun body => body.stop < left.size := by
  induction left using List.reverseRecOn generalizing right with
  | nil => simp [wovenInit]
  | append_singleton left c ih =>
      rw [List.append_assoc, List.singleton_append] at hbodies
      have hpos := Char.utf8Size_pos c
      have hstart := countP_lt_add Span.start bodies hpos fun body hmem =>
        (hbodies body hmem).2.1.not_inside
      have hstop := countP_lt_add Span.stop bodies hpos fun body hmem =>
        (hbodies body hmem).2.2.not_inside
      rw [wovenInit_append, size_append, ih _ hbodies, wovenInit, size_append, size_bracesAt]
      simp only [wovenInit, size_cons, size_nil, size_append, Nat.zero_add, Nat.add_zero]
      omega

theorem size_braced {text : Text} {bodies : List Span} (hbodies : ∀ body ∈ bodies, body.IsIn text) :
    (text.braced bodies).size = text.size + 3 * bodies.length := by
  have hinit := size_wovenInit_bracesAt [] (by simpa using hbodies)
  have hstart : (bodies.countP fun body => body.start ≤ text.size) = bodies.length :=
    List.countP_eq_length.mpr fun body hmem => by simpa using (hbodies body hmem).2.1.le_size
  have hstop : (bodies.countP fun body => body.stop ≤ text.size) = bodies.length :=
    List.countP_eq_length.mpr fun body hmem => by simpa using (hbodies body hmem).2.2.le_size
  rw [countP_le_eq] at hstart hstop
  rw [braced, woven_eq_wovenInit, size_append, hinit, Nat.zero_add, size_bracesAt]
  omega

theorem braced_nil (text : Text) : text.braced [] = text := by
  have hinit : wovenInit (bracesAt []) 0 text = text := wovenInit_eq_self fun _ _ _ => rfl
  rw [braced, woven_eq_wovenInit, hinit]
  exact List.append_nil text

theorem braced_perm {bodies bodies' : List Span} (h : bodies.Perm bodies') (text : Text) :
    text.braced bodies = text.braced bodies' := by
  rw [braced, braced, funext (bracesAt_perm h)]

end Text

/-! ### Moved spans -/

namespace Span

variable (bodies : List Span)

theorem moved_nil (span : Span) : span.moved [] = span := rfl

/-- Braces behind a span do not move it. -/
theorem moved_eq_self {bodies : List Span} {span : Span} (hspan : span.start < span.stop)
    (hbodies : ∀ body ∈ bodies, span.stop ≤ body.start ∧ body.start < body.stop) :
    span.moved bodies = span := by
  have hnone : ∀ (p : Span → Prop) [DecidablePred p],
      (∀ body, span.stop ≤ body.start ∧ body.start < body.stop → ¬p body) →
      (bodies.countP fun body => p body) = 0 := by
    intro p _ hp
    exact List.countP_eq_zero.mpr fun body hmem => by simpa using hp body (hbodies body hmem)
  rw [moved, hnone _ fun body h => by omega, hnone _ fun body h => by omega,
    hnone _ fun body h => by omega, hnone _ fun body h => by omega]
  rfl

theorem moved_perm {bodies bodies' : List Span} (h : bodies.Perm bodies') (span : Span) :
    span.moved bodies = span.moved bodies' := by
  simp only [moved, h.countP_eq]

theorem moved_start_lt {left right : Span} (h : left.start < right.start) :
    (left.moved bodies).start < (right.moved bodies).start := by
  have hstart : (bodies.countP fun body => body.start ≤ left.start) ≤
      bodies.countP fun body => body.start ≤ right.start :=
    List.countP_mono_left fun body _ => by simp only [decide_eq_true_eq]; omega
  have hstop : (bodies.countP fun body => body.stop ≤ left.start) ≤
      bodies.countP fun body => body.stop ≤ right.start :=
    List.countP_mono_left fun body _ => by simp only [decide_eq_true_eq]; omega
  simp only [moved]
  omega

theorem moved_start_lt_iff {left right : Span} :
    (left.moved bodies).start < (right.moved bodies).start ↔ left.start < right.start := by
  constructor
  · intro h
    rcases Nat.lt_trichotomy left.start right.start with hlt | heq | hgt
    · exact hlt
    · simp only [moved, heq] at h
      omega
    · have := moved_start_lt bodies hgt
      omega
  · exact moved_start_lt bodies

/-- Braces keep the order of an end and a start, also where both are at one offset. -/
theorem moved_stop_le_start_iff {left right : Span} :
    (left.moved bodies).stop ≤ (right.moved bodies).start ↔ left.stop ≤ right.start := by
  constructor
  · intro h
    by_contra hnot
    have hstart : (bodies.countP fun body => body.start ≤ right.start) ≤
        bodies.countP fun body => body.start < left.stop :=
      List.countP_mono_left fun body _ => by simp only [decide_eq_true_eq]; omega
    have hstop : (bodies.countP fun body => body.stop ≤ right.start) ≤
        bodies.countP fun body =>
          body.stop < left.stop ∨ body.stop = left.stop ∧ left.start < body.start :=
      List.countP_mono_left fun body _ => by simp only [decide_eq_true_eq]; omega
    simp only [moved] at h
    omega
  · intro h
    have hstart : (bodies.countP fun body => body.start < left.stop) ≤
        bodies.countP fun body => body.start ≤ right.start :=
      List.countP_mono_left fun body _ => by simp only [decide_eq_true_eq]; omega
    have hstop : (bodies.countP fun body =>
          body.stop < left.stop ∨ body.stop = left.stop ∧ left.start < body.start) ≤
        bodies.countP fun body => body.stop ≤ right.start :=
      List.countP_mono_left fun body _ => by simp only [decide_eq_true_eq]; omega
    simp only [moved]
    omega

/-- An end moves at least as far as an end before it. Of two spans with one end, the one that starts
first is the one that ends last afterwards. -/
theorem moved_stop_add_le {left right : Span}
    (h : left.stop < right.stop ∨ left.stop = right.stop ∧ right.start ≤ left.start) :
    (left.moved bodies).stop + right.stop ≤ (right.moved bodies).stop + left.stop := by
  have hstart : (bodies.countP fun body => body.start < left.stop) ≤
      bodies.countP fun body => body.start < right.stop :=
    List.countP_mono_left fun body _ => by simp only [decide_eq_true_eq]; omega
  have hstop : (bodies.countP fun body =>
        body.stop < left.stop ∨ body.stop = left.stop ∧ left.start < body.start) ≤
      bodies.countP fun body =>
        body.stop < right.stop ∨ body.stop = right.stop ∧ right.start < body.start :=
    List.countP_mono_left fun body _ => by simp only [decide_eq_true_eq]; omega
  simp only [moved]
  omega

/-- Whether the closing brace of one span is inside another one does not change. -/
theorem moved_closes_iff {body span : Span} :
    ((body.moved bodies).stop < (span.moved bodies).stop ∨
      (body.moved bodies).stop = (span.moved bodies).stop ∧
        (span.moved bodies).start < (body.moved bodies).start) ↔
      (body.stop < span.stop ∨ body.stop = span.stop ∧ span.start < body.start) := by
  rw [moved_start_lt_iff]
  rcases Nat.lt_trichotomy body.stop span.stop with hlt | heq | hgt
  · have := moved_stop_add_le bodies (Or.inl hlt)
    omega
  · rcases Nat.lt_or_ge span.start body.start with hstart | hstart
    · have := moved_stop_add_le bodies (Or.inr ⟨heq, Nat.le_of_lt hstart⟩)
      omega
    · have := moved_stop_add_le bodies (Or.inr ⟨heq.symm, hstart⟩)
      omega
  · have := moved_stop_add_le bodies (Or.inl hgt)
    omega

theorem moved_inside {inner outer : Span} (h : inner.Inside outer) :
    (inner.moved bodies).Inside (outer.moved bodies) := by
  constructor
  · have := (moved_start_lt_iff bodies).not.mpr (Nat.not_lt.mpr h.1)
    omega
  · have hstart := h.1
    have hstop := h.2
    have := moved_stop_add_le bodies (show
      inner.stop < outer.stop ∨ inner.stop = outer.stop ∧ outer.start ≤ inner.start by omega)
    omega

theorem moved_apart {left right : Span} (h : left.Apart right) :
    (left.moved bodies).Apart (right.moved bodies) :=
  Or.imp (moved_stop_le_start_iff bodies).mpr (moved_stop_le_start_iff bodies).mpr h

theorem moved_start_lt_stop {span : Span} (h : span.start < span.stop) :
    (span.moved bodies).start < (span.moved bodies).stop := by
  have := (moved_stop_le_start_iff bodies).not.mpr (Nat.not_le.mpr h)
  omega

theorem moved_injective : Function.Injective fun span : Span => span.moved bodies := by
  intro left right heq
  have hstart : left.start = right.start := by
    rcases Nat.lt_trichotomy left.start right.start with hlt | heq' | hgt
    · have := moved_start_lt bodies hlt
      simp only [heq] at this
      omega
    · exact heq'
    · have := moved_start_lt bodies hgt
      simp only [heq] at this
      omega
  have hstop : left.stop = right.stop := by
    rcases Nat.lt_trichotomy left.stop right.stop with hlt | heq' | hgt
    · have := moved_stop_add_le bodies (Or.inl hlt)
      simp only [heq] at this
      omega
    · exact heq'
    · have := moved_stop_add_le bodies (Or.inl hgt)
      simp only [heq] at this
      omega
  cases left
  cases right
  simp only [mk.injEq]
  exact ⟨hstart, hstop⟩

/-- Moving for some bodies and then for others, which have moved as well, is moving for all of them. -/
theorem moved_moved (span : Span) (bodies others : List Span) :
    (span.moved bodies).moved (others.map fun other => other.moved bodies) =
      span.moved (bodies ++ others) := by
  have hstarts : ((others.map fun other => other.moved bodies).countP fun body =>
      body.start ≤ (span.moved bodies).start) = others.countP fun body => body.start ≤ span.start := by
    rw [List.countP_map]
    apply List.countP_congr
    intro other _
    simp only [Function.comp_apply, decide_eq_true_eq]
    rw [← Nat.not_lt, ← Nat.not_lt, moved_start_lt_iff]
  have hstops : ((others.map fun other => other.moved bodies).countP fun body =>
      body.stop ≤ (span.moved bodies).start) = others.countP fun body => body.stop ≤ span.start := by
    rw [List.countP_map]
    apply List.countP_congr
    intro other _
    simp only [Function.comp_apply, decide_eq_true_eq, moved_stop_le_start_iff]
  have hopens : ((others.map fun other => other.moved bodies).countP fun body =>
      body.start < (span.moved bodies).stop) = others.countP fun body => body.start < span.stop := by
    rw [List.countP_map]
    apply List.countP_congr
    intro other _
    simp only [Function.comp_apply, decide_eq_true_eq]
    rw [← Nat.not_le, ← Nat.not_le, moved_stop_le_start_iff]
  have hcloses : ((others.map fun other => other.moved bodies).countP fun body =>
      body.stop < (span.moved bodies).stop ∨
        body.stop = (span.moved bodies).stop ∧ (span.moved bodies).start < body.start) =
      others.countP fun body =>
        body.stop < span.stop ∨ body.stop = span.stop ∧ span.start < body.start := by
    rw [List.countP_map]
    apply List.countP_congr
    intro other _
    simp only [Function.comp_apply, decide_eq_true_eq, moved_closes_iff]
  rw [moved, hstarts, hstops, hopens, hcloses]
  simp only [moved, List.countP_append, mk.injEq]
  omega

end Span

/-! ### One more body -/

namespace Text

/-- What braces around one more body do to a text in which others have braces already. At the end of
the body braces of others may close, and its own brace comes first. -/
theorem exists_parts_braced_cons {text : Text} {bodies : List Span} {body : Span}
    (hbodies : ∀ other ∈ bodies, other.IsIn text) (hbody : body.IsIn text)
    (hne : body.start < body.stop) :
    ∃ left inner rest : Text,
      let closing := List.replicate (bodies.countP fun other => other.stop = body.stop) '\x7d'
      text.braced bodies = left ++ inner ++ (closing ++ rest) ∧
      text.braced (body :: bodies) =
        left ++ '\x7b' :: '\n' :: inner ++ '\x7d' :: (closing ++ rest) ∧
      left.size = (body.moved bodies).start ∧
      (left ++ inner).size = body.stop + 2 * (bodies.countP fun other => other.start < body.stop) +
        bodies.countP fun other => other.stop < body.stop := by
  obtain ⟨left, piece, right, rfl, hstart, hstop⟩ := hbody.exists_parts
  cases piece with
  | nil =>
      rw [List.append_nil] at hstop
      omega
  | cons c piece =>
      have hpos := Char.utf8Size_pos c
      have hsizes := hstop
      simp only [size_append, size_cons] at hsizes
      -- Only the pieces at the two ends of the body differ.
      have hleft : wovenInit (bracesAt (body :: bodies)) 0 left = wovenInit (bracesAt bodies) 0 left :=
        wovenInit_congr fun place _ hplace => bracesAt_cons_of_ne (by omega) (by omega)
      have hpiece : wovenInit (bracesAt (body :: bodies)) (body.start + c.utf8Size) piece =
          wovenInit (bracesAt bodies) (body.start + c.utf8Size) piece :=
        wovenInit_congr fun place hlow hhigh => bracesAt_cons_of_ne (by omega) (by omega)
      have hlater : ∀ place, body.stop < place →
          bracesAt (body :: bodies) place = bracesAt bodies place :=
        fun place hplace => bracesAt_cons_of_ne (by omega) (by omega)
      have hright : woven (bracesAt (body :: bodies)) body.stop right =
          '\x7d' :: woven (bracesAt bodies) body.stop right :=
        woven_of_head ['\x7d'] (bracesAt_cons_stop hne) hlater
      have hwoven : ∀ pieces : Nat → Text, woven pieces 0 (left ++ c :: piece ++ right) =
          wovenInit pieces 0 left ++ (pieces body.start ++
            c :: wovenInit pieces (body.start + c.utf8Size) piece) ++ woven pieces body.stop right := by
        intro pieces
        rw [woven_append, Nat.zero_add, hstop, wovenInit_append, Nat.zero_add, hstart, wovenInit]
      obtain ⟨rest, hrest⟩ : ∃ rest, woven (bracesAt bodies) body.stop right =
          bracesAt bodies body.stop ++ rest := exists_woven_eq_append _ _
      have hsize := size_wovenInit_bracesAt (c :: piece ++ right) (by simpa using hbodies)
      have hsize' := size_wovenInit_bracesAt right hbodies
      refine ⟨wovenInit (bracesAt bodies) 0 left ++ bracesAt bodies body.start,
        c :: wovenInit (bracesAt bodies) (body.start + c.utf8Size) piece,
        (List.replicate (bodies.countP fun other => other.start = body.stop) ['\x7b', '\n']).flatten ++
          rest, ?_, ?_, ?_, ?_⟩
      · rw [braced, hwoven, hrest]
        simp only [bracesAt, List.append_assoc]
      · rw [braced, hwoven, hleft, hpiece, hright, hrest, bracesAt_cons_start hne]
        simp only [bracesAt, List.append_assoc, List.cons_append, List.nil_append]
      · rw [size_append, hsize, size_bracesAt, hstart]
        simp only [Span.moved, countP_le_eq]
        omega
      · rw [wovenInit_append, Nat.zero_add, hstart, wovenInit, hstop] at hsize'
        rw [List.append_assoc, hsize']

/-- Naming one more body puts its braces around what the body has become, and that is its moved span:
the braces of bodies inside it close before its end. -/
theorem exists_parts_braced {text : Text} {bodies : List Span} {body : Span}
    (hbodies : ∀ other ∈ bodies, other.IsIn text) (hbody : body.IsIn text)
    (hne : body.start < body.stop) :
    ∃ left inner right, text.braced bodies = left ++ inner ++ right ∧
      text.braced (body :: bodies) = left ++ Curly.brace inner ++ right ∧
      left.size = (body.moved bodies).start ∧ (left ++ inner).size = (body.moved bodies).stop := by
  obtain ⟨left, inner, rest, hbraced, hcons, hstart, hstop⟩ :=
    exists_parts_braced_cons hbodies hbody hne
  let within := bodies.countP fun other => other.stop = body.stop ∧ body.start < other.start
  let ending := bodies.countP fun other => other.stop = body.stop
  have hle : within ≤ ending :=
    List.countP_mono_left fun other _ => by simp only [decide_eq_true_eq]; omega
  have hcloses : (bodies.countP fun other =>
        other.stop < body.stop ∨ other.stop = body.stop ∧ body.start < other.start) =
      (bodies.countP fun other => other.stop < body.stop) + within := by
    apply countP_or_eq
    intro other hbefore hends
    omega
  have hclosing : List.replicate ending '\x7d' =
      List.replicate within '\x7d' ++ List.replicate (ending - within) '\x7d' := by
    rw [List.replicate_append_replicate, Nat.add_sub_of_le hle]
  refine ⟨left, inner ++ List.replicate within '\x7d',
    List.replicate (ending - within) '\x7d' ++ rest, ?_, ?_, hstart, ?_⟩
  · rw [hbraced, hclosing]
    simp only [List.append_assoc]
  · have hswap : '\x7d' :: List.replicate within '\x7d' = List.replicate within '\x7d' ++ ['\x7d'] := by
      rw [← List.replicate_succ, List.replicate_succ']
    rw [hcons, hclosing, Curly.brace]
    calc left ++ '\x7b' :: '\n' :: inner ++ '\x7d' ::
          (List.replicate within '\x7d' ++ List.replicate (ending - within) '\x7d' ++ rest)
        = left ++ '\x7b' :: '\n' :: inner ++ ('\x7d' :: List.replicate within '\x7d') ++
            (List.replicate (ending - within) '\x7d' ++ rest) := by
          simp only [List.append_assoc, List.cons_append]
      _ = _ := by
          rw [hswap]
          simp only [List.append_assoc, List.cons_append]
  · rw [← List.append_assoc, size_append, hstop, size_replicate,
      show Char.utf8Size '\x7d' = 1 by decide]
    simp only [Span.moved]
    omega

theorem braced_append_parts {span : Span} {left inner right : Text} (hstart : left.size = span.start)
    (hstop : (left ++ inner).size = span.stop) (hne : span.start < span.stop) :
    braced (left ++ inner ++ right) [span] = left ++ Curly.brace inner ++ right := by
  have hnone : ∀ body ∈ ([] : List Span), body.IsIn (left ++ inner ++ right) := by simp
  obtain ⟨left', inner', right', hbraced, hcons, hstart', hstop'⟩ :=
    exists_parts_braced hnone (Span.isIn_of_parts right hstart hstop) hne
  rw [Span.moved_nil] at hstart' hstop'
  rw [braced_nil] at hbraced
  obtain ⟨hfront, hright⟩ := append_inj_of_size hbraced (hstop.trans hstop'.symm)
  obtain ⟨hleft, hinner⟩ := append_inj_of_size hfront (hstart.trans hstart'.symm)
  rw [hcons, hleft, hinner, hright]

/-- Braces around a body before all others. -/
theorem braced_cons_of_behind {text front inner back after : Text} {bodies : List Span} {span : Span}
    (hparts : text = front ++ inner ++ back) (hstart : front.size = span.start)
    (hstop : (front ++ inner).size = span.stop) (hne : span.start < span.stop)
    (hbodies : ∀ body ∈ bodies, body.IsIn text)
    (hbehind : ∀ body ∈ bodies, span.stop ≤ body.start ∧ body.start < body.stop)
    (hafter : front ++ inner ++ after = text.braced bodies) :
    text.braced (span :: bodies) = front ++ Curly.brace inner ++ after := by
  have hspan : span.IsIn text := by
    rw [hparts]
    exact Span.isIn_of_parts back hstart hstop
  obtain ⟨left, inner', right, hbraced, hcons, hleft, hinner⟩ := exists_parts_braced hbodies hspan hne
  rw [Span.moved_eq_self hne hbehind] at hleft hinner
  rw [hbraced] at hafter
  obtain ⟨hfront, hright⟩ := append_inj_of_size hafter (hstop.trans hinner.symm)
  obtain ⟨hfirst, hsecond⟩ := append_inj_of_size hfront (hstart.trans hleft.symm)
  rw [hcons, hfirst, hsecond, hright]

/-- Putting braces around one more body in a text where others have braces already. -/
theorem braced_moved {text : Text} {bodies : List Span} {body : Span}
    (hbodies : ∀ other ∈ bodies, other.IsIn text) (hbody : body.IsIn text)
    (hne : body.start < body.stop) :
    (text.braced bodies).braced [body.moved bodies] = text.braced (body :: bodies) := by
  obtain ⟨left, inner, right, hbraced, hcons, hstart, hstop⟩ :=
    exists_parts_braced hbodies hbody hne
  rw [hbraced, hcons]
  exact braced_append_parts hstart hstop (Span.moved_start_lt_stop bodies hne)

end Text

/-- Whole characters stay whole characters. -/
theorem Span.IsIn.moved {text : Text} {bodies : List Span} {span : Span}
    (hbodies : ∀ body ∈ bodies, body.IsIn text) (hspan : span.IsIn text)
    (hne : span.start < span.stop) : (span.moved bodies).IsIn (text.braced bodies) := by
  obtain ⟨left, inner, right, hbraced, -, hstart, hstop⟩ :=
    Text.exists_parts_braced hbodies hspan hne
  rw [hbraced]
  exact Span.isIn_of_parts right hstart hstop

/-- Putting braces around bodies in a text where others have braces already is putting them around
all of these bodies at once. -/
theorem Text.braced_braced {text : Text} {bodies others : List Span}
    (hbodies : ∀ body ∈ bodies, body.IsIn text) (hothers : ∀ other ∈ others, other.IsIn text)
    (hne : ∀ other ∈ others, other.start < other.stop) :
    (text.braced bodies).braced (others.map fun other => other.moved bodies) =
      text.braced (others ++ bodies) := by
  induction others with
  | nil => exact Text.braced_nil _
  | cons other others ih =>
      rw [List.forall_mem_cons] at hothers hne
      have hrest := ih hothers.2 hne.2
      have hmoved : ∀ span ∈ others.map fun other => other.moved bodies,
          span.IsIn (text.braced bodies) := by
        intro span hmem
        obtain ⟨rest, hrestmem, rfl⟩ := List.mem_map.mp hmem
        exact (hothers.2 rest hrestmem).moved hbodies (hne.2 rest hrestmem)
      have hall : ∀ body ∈ others ++ bodies, body.IsIn text := by
        intro body hmem
        rcases List.mem_append.mp hmem with h | h
        · exact hothers.2 body h
        · exact hbodies body h
      calc (text.braced bodies).braced ((other :: others).map fun other => other.moved bodies)
          = ((text.braced bodies).braced (others.map fun other => other.moved bodies)).braced
              [(other.moved bodies).moved (others.map fun other => other.moved bodies)] :=
            (Text.braced_moved hmoved (hothers.1.moved hbodies hne.1)
              (Span.moved_start_lt_stop bodies hne.1)).symm
        _ = (text.braced (others ++ bodies)).braced [other.moved (others ++ bodies)] := by
            rw [hrest, Span.moved_moved, Span.moved_perm List.perm_append_comm]
        _ = text.braced (other :: others ++ bodies) := Text.braced_moved hall hothers.1 hne.1

end BraceLint
