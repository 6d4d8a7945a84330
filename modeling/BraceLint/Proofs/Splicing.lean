import BraceLint.Proofs.Linted
import BraceLint.Proofs.Outermost
import Mathlib.Data.List.Permutation

/-! What applying changes to a text comes to, for any changes. Of the changes that are proposed, those
are kept that start no earlier than the last one kept has ended. The kept ones stand one after the
other, so the text falls into their spans and the gaps between these, and what is written are the gaps
with the new texts between them. Applying fails only where a kept change runs backwards or where a gap
that is copied cuts a character; what has been dropped does no harm. -/

namespace BraceLint

/-! ### Gaps between spans -/

namespace Text

theorem isBoundary_zero (text : Text) : text.IsBoundary 0 :=
  ⟨[], text, rfl, rfl⟩

theorem isBoundary_size (text : Text) : text.IsBoundary text.size :=
  ⟨text, [], (List.append_nil text).symm, rfl⟩

/-- An offset behind the first byte of a character and before the end of this character. -/
def InCharacter (text : Text) (offset : Nat) : Prop :=
  ∃ (left : Text) (c : Char) (right : Text), text = left ++ c :: right ∧
    left.size < offset ∧ offset < left.size + c.utf8Size

theorem InCharacter.le_size {text : Text} {offset : Nat} (h : text.InCharacter offset) :
    offset ≤ text.size := by
  obtain ⟨left, c, right, rfl, -, hhigh⟩ := h
  rw [size_append, size_cons]
  omega

theorem inCharacter_iff {text : Text} {offset : Nat} :
    text.InCharacter offset ↔ offset ≤ text.size ∧ ¬text.IsBoundary offset := by
  constructor
  · intro h
    refine ⟨h.le_size, fun hboundary => ?_⟩
    obtain ⟨left, c, right, rfl, hlow, hhigh⟩ := h
    have := hboundary.not_inside hlow
    omega
  · rintro ⟨hle, hnot⟩
    induction text generalizing offset with
    | nil =>
        rw [size_nil, Nat.le_zero] at hle
        subst hle
        exact absurd (isBoundary_zero []) hnot
    | cons c text ih =>
        by_cases hzero : offset = 0
        · subst hzero
          exact absurd (isBoundary_zero _) hnot
        by_cases hfirst : offset < c.utf8Size
        · exact ⟨[], c, text, rfl, Nat.pos_of_ne_zero hzero, by simpa using hfirst⟩
        · rw [size_cons] at hle
          have hrest : ¬IsBoundary text (offset - c.utf8Size) := by
            rintro ⟨left, right, rfl, hsize⟩
            refine hnot ⟨c :: left, right, rfl, ?_⟩
            rw [size_cons]
            omega
          obtain ⟨left, d, right, rfl, hlow, hhigh⟩ := ih (by omega) hrest
          refine ⟨c :: left, d, right, rfl, ?_, ?_⟩
          · rw [size_cons]
            omega
          · rw [size_cons]
            omega

instance (text : Text) (offset : Nat) : Decidable (text.InCharacter offset) :=
  decidable_of_iff _ inCharacter_iff.symm

/-- Pieces with other texts between them. -/
def joined : (pieces between : List Text) → Text
  | piece :: pieces, inner :: between => piece ++ inner ++ joined pieces between
  | pieces, _ => pieces.flatten

theorem joined_singleton (piece : Text) : joined [piece] [] = piece :=
  List.append_nil piece

end Text

namespace Span

/-- The part of a span that lies in a text of the given size. -/
def clipped (span : Span) (size : Nat) : Span :=
  ⟨min size span.start, min size span.stop⟩

/-- The span runs forwards, and each of its ends is between two characters of the text or beyond the
end of the text. -/
def Cuts (span : Span) (text : Text) : Prop :=
  span.start ≤ span.stop ∧ (text.IsBoundary span.start ∨ text.size < span.start) ∧
    (text.IsBoundary span.stop ∨ text.size < span.stop)

instance (span : Span) (text : Text) : Decidable (span.Cuts text) :=
  inferInstanceAs (Decidable (_ ∧ _ ∧ _))

theorem Cuts.clipped_isIn {span : Span} {text : Text} (h : span.Cuts text) :
    (span.clipped text.size).IsIn text := by
  have hmin : ∀ offset, text.IsBoundary offset ∨ text.size < offset →
      text.IsBoundary (min text.size offset) := by
    rintro offset (hboundary | hbeyond)
    · rwa [Nat.min_eq_right hboundary.le_size]
    · rw [Nat.min_eq_left (Nat.le_of_lt hbeyond)]
      exact text.isBoundary_size
  have hle := h.1
  exact ⟨by simp only [clipped]; omega, hmin _ h.2.1, hmin _ h.2.2⟩

theorem isIn_iff_exists_slice? {span : Span} {text : Text} :
    span.IsIn text ↔ ∃ piece, text.slice? span = some piece := by
  constructor
  · intro h
    obtain ⟨left, piece, right, happend, hstart, hstop⟩ := h.exists_parts
    exact ⟨piece, Text.slice?_eq_some_iff.mpr ⟨left, right, happend, hstart, hstop⟩⟩
  · rintro ⟨piece, hslice⟩
    obtain ⟨left, right, rfl, hstart, hstop⟩ := Text.slice?_eq_some_iff.mp hslice
    exact isIn_of_parts right hstart hstop

end Span

/-- What lies before, between and after spans in a text of the given size, from an offset on. -/
def gaps (size : Nat) : (last : Nat) → List Span → List Span
  | last, [] => [⟨last, size⟩]
  | last, span :: spans =>
    ⟨last, (span.clipped size).start⟩ :: gaps size (span.clipped size).stop spans

theorem le_size_of_mem_gaps {size last : Nat} {spans : List Span} (hlast : last ≤ size) :
    ∀ gap ∈ gaps size last spans, gap.start ≤ size ∧ gap.stop ≤ size := by
  induction spans generalizing last with
  | nil =>
      intro gap hgap
      rw [List.mem_singleton.mp hgap]
      exact ⟨hlast, Nat.le_refl _⟩
  | cons span spans ih =>
      rw [gaps, List.forall_mem_cons]
      exact ⟨⟨hlast, Nat.min_le_left _ _⟩, ih (Nat.min_le_left _ _)⟩

theorem exists_forall₂_iff {α β : Type} {R : α → β → Prop} {items : List α} :
    (∃ partners, List.Forall₂ R items partners) ↔ ∀ item ∈ items, ∃ partner, R item partner := by
  induction items with
  | nil => exact ⟨fun _ _ hmem => absurd hmem List.not_mem_nil, fun _ => ⟨[], List.Forall₂.nil⟩⟩
  | cons item items ih =>
      rw [List.forall_mem_cons, ← ih]
      constructor
      · rintro ⟨_, hall⟩
        cases hall with
        | cons hhead htail => exact ⟨⟨_, hhead⟩, _, htail⟩
      · rintro ⟨⟨partner, hhead⟩, partners, htail⟩
        exact ⟨partner :: partners, List.Forall₂.cons hhead htail⟩

/-- A change starts in another one that starts no later. An insertion where the other one starts is in
it too. -/
def Change.StartsIn (change other : Change) : Prop :=
  other.span.start ≤ change.span.start ∧ change.span.start < other.span.stop

namespace Edit

/-! ### What is dropped -/

/-- Whatever is dropped starts before the end of something that is kept and starts no later. -/
theorem exists_dropped_keepFrom (last : Nat) {changes : List Change} (hsorted : StartSorted changes) :
    ∃ dropped, (keepFrom last changes ++ dropped).Perm changes ∧
      ∀ change ∈ dropped, change.span.start < last ∨
        ∃ other ∈ keepFrom last changes, change.StartsIn other := by
  induction changes generalizing last with
  | nil => exact ⟨[], List.Perm.refl _, fun _ hmem => absurd hmem List.not_mem_nil⟩
  | cons head rest ih =>
      obtain ⟨hhead, hrest⟩ := List.pairwise_cons.mp hsorted
      rw [keepFrom]
      by_cases hdrop : head.span.start < last
      · rw [if_pos hdrop]
        obtain ⟨dropped, hperm, hdropped⟩ := ih last hrest
        exact ⟨head :: dropped, List.perm_middle.trans (hperm.cons head),
          List.forall_mem_cons.mpr ⟨Or.inl hdrop, hdropped⟩⟩
      · rw [if_neg hdrop]
        obtain ⟨dropped, hperm, hdropped⟩ := ih head.span.stop hrest
        refine ⟨dropped, hperm.cons head, fun change hchange => Or.inr ?_⟩
        -- The bound for the rest is the end of `head`, so what it drops starts in `head`.
        rcases hdropped change hchange with hbefore | ⟨other, hother, hstarts⟩
        · have hmem : change ∈ rest := hperm.subset (List.mem_append_right _ hchange)
          exact ⟨head, List.mem_cons_self, hhead change hmem, hbefore⟩
        · exact ⟨other, List.mem_cons_of_mem _ hother, hstarts⟩

theorem exists_dropped_keep (changes : List Change) :
    ∃ dropped, (keep changes ++ dropped).Perm changes ∧
      ∀ change ∈ dropped, ∃ other ∈ keep changes, change.StartsIn other := by
  obtain ⟨dropped, hperm, hdropped⟩ := exists_dropped_keepFrom 0 (startSorted_sortByStart changes)
  refine ⟨dropped, hperm.trans (List.mergeSort_perm _ _), fun change hchange => ?_⟩
  exact (hdropped change hchange).resolve_left (Nat.not_lt_zero _)

/-- One more change comes before those that start no earlier and after those that start earlier. -/
theorem sortByStart_cons (change : Change) (changes : List Change) :
    ∃ front back, sortByStart (change :: changes) = front ++ change :: back ∧
      front = (sortByStart changes).filter (fun other => other.span.start < change.span.start) ∧
      back = (sortByStart changes).filter (fun other => change.span.start ≤ other.span.start) ∧
      sortByStart changes = front ++ back := by
  obtain ⟨front, back, hall, hrest, hfront⟩ :=
    List.mergeSort_cons start_le_trans start_le_total change changes
  have hbefore : ∀ other ∈ front, other.span.start < change.span.start := by
    intro other hother
    simpa using hfront other hother
  have hafter : ∀ other ∈ back, change.span.start ≤ other.span.start := by
    have hsorted := startSorted_sortByStart (change :: changes)
    rw [sortByStart, hall, StartSorted, List.pairwise_append, List.pairwise_cons] at hsorted
    exact hsorted.2.1.1
  refine ⟨front, back, hall, ?_, ?_, hrest⟩
  · rw [sortByStart, hrest, List.filter_append,
      List.filter_eq_self.mpr fun other hother => decide_eq_true (hbefore other hother),
      List.filter_eq_nil_iff.mpr fun other hother => by simpa using hafter other hother,
      List.append_nil]
  · rw [sortByStart, hrest, List.filter_append,
      List.filter_eq_nil_iff.mpr fun other hother => by simpa using hbefore other hother,
      List.filter_eq_self.mpr fun other hother => decide_eq_true (hafter other hother),
      List.nil_append]

/-- Sorting keeps the order of ties, so it does not matter whether changes are left out before or
after it. -/
theorem sortByStart_filter (p : Change → Bool) (changes : List Change) :
    sortByStart (changes.filter p) = (sortByStart changes).filter p := by
  induction changes with
  | nil => simp [sortByStart]
  | cons change changes ih =>
      obtain ⟨front, back, hall, hfront, hback, hrest⟩ := sortByStart_cons change changes
      by_cases hp : p change = true
      · -- The change goes between the same two parts, whether others are left out before or after.
        obtain ⟨front', back', hall', hfront', hback', -⟩ :=
          sortByStart_cons change (changes.filter p)
        rw [List.filter_cons_of_pos hp, hall', hall, List.filter_append, List.filter_cons_of_pos hp,
          hfront', hback', hfront, hback, ih, List.filter_comm, List.filter_comm _ p]
      · rw [List.filter_cons_of_neg hp, hall, List.filter_append, List.filter_cons_of_neg hp,
          ← List.filter_append, ← hrest, ih]

theorem keepFrom_filter (p : Change → Bool) {last : Nat} {changes : List Change}
    (hkept : ∀ change ∈ keepFrom last changes, p change = true) :
    keepFrom last (changes.filter p) = keepFrom last changes := by
  induction changes generalizing last with
  | nil => rfl
  | cons head rest ih =>
      rw [keepFrom] at hkept ⊢
      by_cases hdrop : head.span.start < last
      · rw [if_pos hdrop] at hkept ⊢
        by_cases hp : p head = true
        · rw [List.filter_cons_of_pos hp, keepFrom, if_pos hdrop, ih hkept]
        · rw [List.filter_cons_of_neg hp, ih hkept]
      · rw [if_neg hdrop, List.forall_mem_cons] at hkept
        rw [if_neg hdrop, List.filter_cons_of_pos hkept.1, keepFrom, if_neg hdrop, ih hkept.2]

/-- Without some of the changes that are dropped the same changes are kept. -/
theorem keep_filter (p : Change → Bool) {changes : List Change}
    (hkept : ∀ change ∈ keep changes, p change = true) : keep (changes.filter p) = keep changes := by
  rw [keep, sortByStart_filter, keepFrom_filter p hkept, keep]

theorem not_pairwise_of_startsIn {changes : List Change} {change other : Change}
    (hother : other ∈ changes) (hstarts : change.StartsIn other) :
    ¬(sortByStart (changes ++ [change])).Pairwise fun earlier later =>
      earlier.span.stop ≤ later.span.start := by
  intro hordered
  have hpair : [other, change].Sublist (changes ++ [change]) :=
    (List.singleton_sublist.mpr hother).append (List.Sublist.refl [change])
  have hsorted : [other, change].Sublist (sortByStart (changes ++ [change])) :=
    List.pair_sublist_mergeSort start_le_trans start_le_total (decide_eq_true hstarts.1) hpair
  have hle : other.span.stop ≤ change.span.start := by
    simpa using hordered.sublist hsorted
  exact Nat.not_lt.mpr hle hstarts.2

/-! ### What is copied -/

theorem copy_eq_ok_of_slice? {text piece : Text} {span : Span} (h : text.slice? span = some piece) :
    copy text span = .ok piece := by
  obtain ⟨left, right, rfl, hstart, hstop⟩ := Text.slice?_eq_some_iff.mp h
  exact copy_eq_ok right hstart hstop

theorem exists_copy_iff {text : Text} {span : Span} :
    (∃ piece, copy text span = .ok piece) ↔ (span.start < span.stop → span.IsIn text) := by
  rw [copy]
  by_cases hlt : span.start < span.stop
  · rw [if_pos hlt, Span.isIn_iff_exists_slice?]
    cases text.slice? span with
    | none => simp [hlt]
    | some piece => simp [hlt]
  · rw [if_neg hlt]
    exact ⟨fun _ h => absurd h hlt, fun _ => ⟨[], rfl⟩⟩

/-- A gap that starts beyond the end of the text may as well start at its end. -/
theorem copy_clipped (text : Text) (last stop : Nat) :
    copy text ⟨min text.size last, min text.size stop⟩ = copy text ⟨last, min text.size stop⟩ := by
  by_cases hlast : last ≤ text.size
  · rw [Nat.min_eq_right hlast]
  · have hfirst : ¬min text.size last < min text.size stop := by omega
    have hsecond : ¬last < min text.size stop := by omega
    rw [copy, if_neg hfirst, copy, if_neg hsecond]

/-! ### What is written -/

/-- Changes that stand one after the other write the gaps with the new texts between them. -/
theorem spliceFrom_eq_ok_iff {text result : Text} {last : Nat} {changes : List Change}
    (hforward : ∀ change ∈ changes, change.span.start ≤ change.span.stop)
    (hordered : changes.Pairwise fun earlier later => earlier.span.stop ≤ later.span.start)
    (hlast : ∀ change ∈ changes, last ≤ change.span.start) :
    spliceFrom text last changes = .ok result ↔ ∃ pieces,
      List.Forall₂ (fun gap piece => copy text gap = .ok piece)
        (gaps text.size (min text.size last) (changes.map Change.span)) pieces ∧
      result = Text.joined pieces (changes.map Change.newText) := by
  induction changes generalizing last result with
  | nil =>
      -- After a change beyond the end of the text there is nothing to copy, from either offset.
      have hcopy := copy_clipped text last text.size
      rw [Nat.min_self] at hcopy
      rw [spliceFrom, List.map_nil, gaps, hcopy.symm]
      constructor
      · exact fun h => ⟨[result], List.Forall₂.cons h List.Forall₂.nil, (Text.joined_singleton _).symm⟩
      · rintro ⟨pieces, hpieces, rfl⟩
        cases hpieces with
        | cons hpiece hnil =>
            cases hnil
            rw [List.map_nil, Text.joined_singleton]
            exact hpiece
  | cons change changes ih =>
      rw [List.forall_mem_cons] at hforward hlast
      obtain ⟨hbehind, hrest⟩ := List.pairwise_cons.mp hordered
      have hrun : ¬change.span.stop < change.span.start := Nat.not_lt.mpr hforward.1
      have hnext : ¬change.span.start < last := Nat.not_lt.mpr hlast.1
      rw [spliceFrom, if_neg hrun, if_neg hnext, List.map_cons, gaps, Span.clipped, bind_eq_ok_iff]
      simp only [← copy_clipped text last, bind_eq_ok_iff, ih hforward.2 hrest hbehind]
      constructor
      · rintro ⟨before, hbefore, after, ⟨pieces, hpieces, rfl⟩, hresult⟩
        cases hresult
        exact ⟨before :: pieces, List.Forall₂.cons hbefore hpieces, rfl⟩
      · rintro ⟨pieces, hpieces, rfl⟩
        cases hpieces with
        | cons hbefore hafter => exact ⟨_, hbefore, _, ⟨_, hafter, rfl⟩, rfl⟩

theorem forward_of_spliceFrom {text result : Text} {last : Nat} {changes : List Change}
    (h : spliceFrom text last changes = .ok result) :
    ∀ change ∈ changes, change.span.start ≤ change.span.stop := by
  induction changes generalizing last result with
  | nil => exact fun _ hmem => absurd hmem List.not_mem_nil
  | cons change changes ih =>
      rw [spliceFrom] at h
      split_ifs at h with hbackwards hoverlaps
      obtain ⟨before, -, hrest⟩ := bind_eq_ok_iff.mp h
      obtain ⟨after, hafter, -⟩ := bind_eq_ok_iff.mp hrest
      exact List.forall_mem_cons.mpr ⟨Nat.le_of_not_lt hbackwards, ih hafter⟩

theorem spliceFrom_ne_overlapping {text : Text} {last : Nat} {changes : List Change} {span : Span}
    (hforward : ∀ change ∈ changes, change.span.start ≤ change.span.stop)
    (hordered : changes.Pairwise fun earlier later => earlier.span.stop ≤ later.span.start)
    (hlast : ∀ change ∈ changes, last ≤ change.span.start) :
    spliceFrom text last changes ≠ .error (.overlapping span) := by
  have hcopy : ∀ gap, copy text gap ≠ .error (.overlapping span) := by
    intro gap
    rw [copy]
    split_ifs
    · split <;> simp
    · simp
  induction changes generalizing last with
  | nil => exact hcopy _
  | cons change changes ih =>
      rw [List.forall_mem_cons] at hforward hlast
      obtain ⟨hbehind, hrest⟩ := List.pairwise_cons.mp hordered
      have hrun : ¬change.span.stop < change.span.start := Nat.not_lt.mpr hforward.1
      have hnext : ¬change.span.start < last := Nat.not_lt.mpr hlast.1
      rw [spliceFrom, if_neg hrun, if_neg hnext]
      intro herror
      rcases bind_eq_error_iff.mp herror with hbefore | ⟨before, -, hafter⟩
      · exact hcopy _ hbefore
      · rcases bind_eq_error_iff.mp hafter with hafter | ⟨after, -, hpure⟩
        · exact ih hforward.2 hrest hbehind hafter
        · cases hpure

theorem splice_keep_eq_ok_iff_of_forward {text result : Text} {changes : List Change}
    (hforward : ∀ change ∈ keep changes, change.span.start ≤ change.span.stop) :
    splice text (keep changes) = .ok result ↔ ∃ pieces,
      List.Forall₂ (fun gap piece => copy text gap = .ok piece)
        (gaps text.size 0 ((keep changes).map Change.span)) pieces ∧
      result = Text.joined pieces ((keep changes).map Change.newText) := by
  have hordered := keepFrom_pairwise 0 hforward
  rw [splice, sortBySpan_keep hforward,
    spliceFrom_eq_ok_iff hforward hordered fun change _ => Nat.zero_le change.span.start, Nat.min_zero]

/-- Applying what is kept succeeds exactly when all of it runs forwards and all gaps can be copied. -/
theorem exists_splice_keep_iff {text : Text} {changes : List Change} :
    (∃ result, splice text (keep changes) = .ok result) ↔
      (∀ change ∈ keep changes, change.span.start ≤ change.span.stop) ∧
        ∀ gap ∈ gaps text.size 0 ((keep changes).map Change.span),
          gap.start < gap.stop → gap.IsIn text := by
  simp only [← exists_copy_iff]
  rw [← exists_forall₂_iff]
  constructor
  · rintro ⟨result, h⟩
    have hforward : ∀ change ∈ keep changes, change.span.start ≤ change.span.stop :=
      fun change hchange => forward_of_spliceFrom h change (List.mem_mergeSort.mpr hchange)
    obtain ⟨pieces, hpieces, -⟩ := (splice_keep_eq_ok_iff_of_forward hforward).mp h
    exact ⟨hforward, pieces, hpieces⟩
  · rintro ⟨hforward, pieces, hpieces⟩
    exact ⟨_, (splice_keep_eq_ok_iff_of_forward hforward).mpr ⟨pieces, hpieces, rfl⟩⟩

/-- Changes that stand one after the other cut the text into gaps and their own spans. -/
theorem exists_pieces {text left right : Text} {last : Nat} {changes : List Change}
    (htext : text = left ++ right) (hsize : left.size = min text.size last)
    (hcuts : ∀ change ∈ changes, change.span.Cuts text)
    (hordered : changes.Pairwise fun earlier later => earlier.span.stop ≤ later.span.start)
    (hlast : ∀ change ∈ changes, last ≤ change.span.start) :
    ∃ pieces removed : List Text,
      List.Forall₂ (fun gap piece => text.slice? gap = some piece)
        (gaps text.size (min text.size last) (changes.map Change.span)) pieces ∧
      List.Forall₂ (fun change inner => text.slice? (change.span.clipped text.size) = some inner)
        changes removed ∧
      right = Text.joined pieces removed := by
  induction changes generalizing left right last with
  | nil =>
      refine ⟨[right], [], List.Forall₂.cons ?_ List.Forall₂.nil, List.Forall₂.nil,
        (Text.joined_singleton right).symm⟩
      refine Text.slice?_eq_some_iff.mpr ⟨left, [], ?_, hsize, ?_⟩
      · rw [List.append_nil, htext]
      · rw [htext]
  | cons change changes ih =>
      rw [List.forall_mem_cons] at hcuts hlast
      obtain ⟨hbehind, hrest⟩ := List.pairwise_cons.mp hordered
      obtain ⟨front, inner, back, hparts, hstart, hstop⟩ := hcuts.1.clipped_isIn.exists_parts
      have hsame : left ++ right = front ++ (inner ++ back) := by
        rw [← htext, hparts, List.append_assoc]
      have hle : left.size ≤ front.size := by
        have hchange := hlast.1
        rw [hsize, hstart]
        simp only [Span.clipped]
        omega
      obtain ⟨before, rfl, rfl⟩ := Text.exists_between hsame hle
      obtain ⟨pieces, removed, hpieces, hremoved, rfl⟩ := ih hparts hstop hcuts.2 hrest hbehind
      refine ⟨before :: pieces, inner :: removed, List.Forall₂.cons ?_ hpieces,
        List.Forall₂.cons ?_ hremoved, (List.append_assoc _ _ _).symm⟩
      · refine Text.slice?_eq_some_iff.mpr ⟨left, inner ++ Text.joined pieces removed, ?_, hsize, hstart⟩
        rw [htext, List.append_assoc]
      · exact Text.slice?_eq_some_iff.mpr ⟨left ++ before, _, hparts, hstart, hstop⟩

end Edit

/-! ### Diagnostics with any fixes -/

theorem Edit.mem_proposed_iff {diagnostics : List Diagnostic} {change : Change} :
    change ∈ Edit.proposed (diagnostics.map Diagnostic.fixes) ↔
      ∃ diagnostic ∈ diagnostics, ∃ fix ∈ diagnostic.fixes.head?, change ∈ fix.changes := by
  rw [Edit.proposed, List.flatMap_map, List.mem_flatMap]
  constructor
  · rintro ⟨diagnostic, hdiagnostic, hchange⟩
    cases hfixes : diagnostic.fixes with
    | nil => simp [hfixes] at hchange
    | cons fix fixes =>
        rw [hfixes] at hchange
        exact ⟨diagnostic, hdiagnostic, fix, by rw [hfixes]; rfl, hchange⟩
  · rintro ⟨diagnostic, hdiagnostic, fix, hfix, hchange⟩
    refine ⟨diagnostic, hdiagnostic, ?_⟩
    rw [Option.mem_def.mp hfix]
    exact hchange

/-- **What applying fixes writes.** Whatever the fixes of diagnostics are, as long as the changes of the
first ones cut between characters: of these changes those that are kept stand one after the other, and
each that is dropped starts in one that is kept, so it cannot be added behind it, and what starts in no
kept one has been kept. The text falls into gaps and the spans of the kept changes, and in the places of
these spans the new texts are written. -/
theorem applyFirstFixes_eq_joined (text : Text) (diagnostics : List Diagnostic)
    (hcuts : ∀ change ∈ Edit.proposed (diagnostics.map Diagnostic.fixes), change.span.Cuts text) :
    let candidates := Edit.proposed (diagnostics.map Diagnostic.fixes)
    let kept := Edit.keep candidates
    (∀ change, change ∈ candidates ↔
      ∃ diagnostic ∈ diagnostics, ∃ fix ∈ diagnostic.fixes.head?, change ∈ fix.changes) ∧
    (kept.Pairwise fun earlier later => earlier.span.stop ≤ later.span.start) ∧
    (∃ dropped, (kept ++ dropped).Perm candidates ∧
      ∀ change ∈ dropped, (∃ other ∈ kept, change.StartsIn other) ∧
        ¬(Edit.sortByStart (kept ++ [change])).Pairwise fun earlier later =>
          earlier.span.stop ≤ later.span.start) ∧
    (∀ change ∈ candidates, (∀ other ∈ kept, ¬change.StartsIn other) → change ∈ kept) ∧
    ∃ pieces removed : List Text,
      List.Forall₂ (fun gap piece => text.slice? gap = some piece)
        (gaps text.size 0 (kept.map Change.span)) pieces ∧
      List.Forall₂ (fun change inner => text.slice? (change.span.clipped text.size) = some inner)
        kept removed ∧
      text = Text.joined pieces removed ∧
      applyFirstFixes text diagnostics = .ok (Text.joined pieces (kept.map Change.newText)) := by
  intro candidates kept
  obtain ⟨dropped, hperm, hdropped⟩ := Edit.exists_dropped_keep candidates
  have hkept : ∀ change ∈ kept, change.span.Cuts text := fun change hchange =>
    hcuts change (hperm.subset (List.mem_append_left _ hchange))
  have hforward : ∀ change ∈ kept, change.span.start ≤ change.span.stop :=
    fun change hchange => (hkept change hchange).1
  have hordered := Edit.keepFrom_pairwise 0 hforward
  obtain ⟨pieces, removed, hpieces, hremoved, htext⟩ := Edit.exists_pieces (List.nil_append text).symm
    (Nat.min_zero text.size).symm hkept hordered fun change _ => Nat.zero_le change.span.start
  rw [Nat.min_zero] at hpieces
  have hcopies := hpieces.imp fun _ _ => Edit.copy_eq_ok_of_slice?
  refine ⟨fun change => Edit.mem_proposed_iff, hordered, ⟨dropped, hperm, fun change hchange => ?_⟩,
    fun change hchange hnone => ?_, pieces, removed, hpieces, hremoved, htext,
    (Edit.splice_keep_eq_ok_iff_of_forward hforward).mpr ⟨pieces, hcopies, rfl⟩⟩
  · obtain ⟨other, hother, hstarts⟩ := hdropped change hchange
    exact ⟨⟨other, hother, hstarts⟩, Edit.not_pairwise_of_startsIn hother hstarts⟩
  · rcases List.mem_append.mp (hperm.mem_iff.mpr hchange) with hmem | hmem
    · exact hmem
    · obtain ⟨other, hother, hstarts⟩ := hdropped change hmem
      exact absurd hstarts (hnone other hother)

namespace AnyFixes

/-- A text of four bytes, two of which are one character. -/
def text : Text := "aéb".toList

/-- A diagnostic that offers fixes. -/
def offering (fixes : List Fix) : Diagnostic where
  specifier := SourceFile.exampleUrl
  range := ⟨⟨0, 0, 0⟩, ⟨0, 0, 0⟩⟩
  message := ""
  code := ""
  hint := none
  fixes := fixes

/-- A replacement and a change beyond the end of the text, an insertion where the replacement starts,
and one where it ends. The second fix of the first diagnostic does not count. -/
def diagnostics : List Diagnostic :=
  [offering [⟨"", [⟨⟨1, 3⟩, ['X']⟩, ⟨⟨9, 12⟩, ['Z']⟩]⟩, ⟨"", [⟨⟨0, 4⟩, []⟩]⟩],
    offering [⟨"", [⟨⟨1, 1⟩, ['<']⟩]⟩], offering [⟨"", [⟨⟨3, 3⟩, ['>']⟩]⟩]]

/-- The insertion where the replacement starts comes after it in the order of the changes. -/
theorem keep_diagnostics : Edit.keep (Edit.proposed (diagnostics.map Diagnostic.fixes)) =
    [⟨⟨1, 3⟩, ['X']⟩, ⟨⟨3, 3⟩, ['>']⟩, ⟨⟨9, 12⟩, ['Z']⟩] := by
  cbv

end AnyFixes

theorem anyFixes_eq_joined :
    (∀ change ∈ Edit.proposed (AnyFixes.diagnostics.map Diagnostic.fixes),
      change.span.Cuts AnyFixes.text) ∧
    applyFirstFixes AnyFixes.text AnyFixes.diagnostics = .ok "aX>bZ".toList := by
  have hcuts : ∀ change ∈ Edit.proposed (AnyFixes.diagnostics.map Diagnostic.fixes),
      change.span.Cuts AnyFixes.text := by
    decide
  obtain ⟨-, -, -, -, pieces, removed, hpieces, -, -, happly⟩ :=
    applyFirstFixes_eq_joined AnyFixes.text AnyFixes.diagnostics hcuts
  have hgaps : List.Forall₂ (fun gap piece => AnyFixes.text.slice? gap = some piece)
      [⟨0, 1⟩, ⟨3, 3⟩, ⟨3, 4⟩, ⟨4, 4⟩] [['a'], [], ['b'], []] := by
    simp only [List.forall₂_cons, List.forall₂_nil_left_iff]
    decide
  have hunique : Relator.RightUnique fun gap piece => AnyFixes.text.slice? gap = some piece :=
    fun gap piece other hpiece hother => Option.some.inj (hpiece.symm.trans hother)
  rw [AnyFixes.keep_diagnostics] at hpieces happly
  rw [List.right_unique_forall₂' hunique hpieces hgaps] at happly
  exact ⟨hcuts, happly⟩

/-- The diagnostic with only those changes in its fixes that pass a test. -/
def Diagnostic.onlyChanges (p : Change → Bool) (diagnostic : Diagnostic) : Diagnostic :=
  { diagnostic with
    fixes := diagnostic.fixes.map fun fix => { fix with changes := fix.changes.filter p } }

theorem Edit.proposed_onlyChanges (p : Change → Bool) (diagnostics : List Diagnostic) :
    Edit.proposed ((diagnostics.map (Diagnostic.onlyChanges p)).map Diagnostic.fixes) =
      (Edit.proposed (diagnostics.map Diagnostic.fixes)).filter p := by
  rw [Edit.proposed, Edit.proposed, List.map_map, List.flatMap_map, List.flatMap_map,
    List.filter_flatMap]
  congr 1
  funext diagnostic
  cases hfixes : diagnostic.fixes with
  | nil => simp [Diagnostic.onlyChanges, hfixes]
  | cons fix fixes => simp [Diagnostic.onlyChanges, hfixes]

/-- **When applying fixes fails.** It fails exactly if a change that is kept runs backwards, or if a gap
between kept changes that has something to copy starts or ends inside a character. When all kept
changes run forwards, they are never found to overlap, and changes that are dropped do no harm: without
them the outcome is the same. -/
theorem applyFirstFixes_fails_iff (text : Text) (diagnostics : List Diagnostic) :
    let kept := Edit.keep (Edit.proposed (diagnostics.map Diagnostic.fixes))
    ((∃ failure, applyFirstFixes text diagnostics = .error failure) ↔
      (∃ change ∈ kept, change.span.stop < change.span.start) ∨
        ∃ gap ∈ gaps text.size 0 (kept.map Change.span), gap.start < gap.stop ∧
          (text.InCharacter gap.start ∨ text.InCharacter gap.stop)) ∧
    ((∀ change ∈ kept, change.span.start ≤ change.span.stop) →
      ∀ span, applyFirstFixes text diagnostics ≠ .error (.overlapping span)) ∧
    ∀ p : Change → Bool, (∀ change ∈ kept, p change = true) →
      applyFirstFixes text (diagnostics.map (Diagnostic.onlyChanges p)) =
        applyFirstFixes text diagnostics := by
  intro kept
  refine ⟨?_, fun hforward span => ?_, fun p hp => ?_⟩
  · have hsucceeds : (∃ fixed, applyFirstFixes text diagnostics = .ok fixed) ↔ _ :=
      Edit.exists_splice_keep_iff
    rw [exists_error_iff, hsucceeds, not_and_or]
    refine or_congr ?_ ?_
    · simp only [not_forall, Nat.not_le, exists_prop]
      rfl
    · simp only [not_forall, exists_prop]
      refine exists_congr fun gap => and_congr_right fun hgap => and_congr_right fun hlt => ?_
      obtain ⟨hstart, hstop⟩ := le_size_of_mem_gaps (Nat.zero_le _) gap hgap
      rw [Span.IsIn, Text.inCharacter_iff, Text.inCharacter_iff, and_iff_right hstart,
        and_iff_right hstop, ← not_and_or, and_iff_right (Nat.le_of_lt hlt)]
  · rw [applyFirstFixes, Edit.applyFixes, Edit.splice, Edit.sortBySpan_keep hforward]
    exact Edit.spliceFrom_ne_overlapping hforward (Edit.keepFrom_pairwise 0 hforward)
      fun change _ => Nat.zero_le change.span.start
  · rw [applyFirstFixes, applyFirstFixes, Edit.applyFixes, Edit.applyFixes, Edit.proposed_onlyChanges,
      Edit.keep_filter p hp]

namespace AnyFixes

/-- An insertion inside the character. -/
def cutting : List Diagnostic := [offering [⟨"", [⟨⟨2, 2⟩, ['X']⟩]⟩]]

/-- Two changes that touch inside the character, and one that runs backwards and starts in the first of
them. -/
def touching : List Diagnostic :=
  [offering [⟨"", [⟨⟨2, 3⟩, ['Y']⟩, ⟨⟨0, 2⟩, ['X']⟩]⟩], offering [⟨"", [⟨⟨1, 0⟩, ['Z']⟩]⟩]]

end AnyFixes

theorem anyFixes_fails_iff :
    (∃ failure, applyFirstFixes AnyFixes.text AnyFixes.cutting = .error failure) ∧
      ¬∃ failure, applyFirstFixes AnyFixes.text AnyFixes.touching = .error failure := by
  have hcutting : Edit.keep (Edit.proposed (AnyFixes.cutting.map Diagnostic.fixes)) =
      [⟨⟨2, 2⟩, ['X']⟩] := by
    cbv
  have htouching : Edit.keep (Edit.proposed (AnyFixes.touching.map Diagnostic.fixes)) =
      [⟨⟨0, 2⟩, ['X']⟩, ⟨⟨2, 3⟩, ['Y']⟩] := by
    cbv
  rw [(applyFirstFixes_fails_iff AnyFixes.text AnyFixes.cutting).1,
    (applyFirstFixes_fails_iff AnyFixes.text AnyFixes.touching).1, hcutting, htouching]
  decide

end BraceLint
