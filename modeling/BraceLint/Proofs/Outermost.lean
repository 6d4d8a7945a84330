import BraceLint.Proofs.Findings
import Mathlib.Data.List.Nodup

/-! Applying fixes of the rule together. Bodies of statements are nested or apart, so of bodies sorted
by where they start the ones that start no earlier than the end of the last one kept are the outermost
ones. These get their braces. What else was named, how often and in which order, does not matter. -/

namespace BraceLint

/-- The spans that lie in no other one of a list. -/
def outermost (spans : List Span) : List Span :=
  spans.filter fun span => ∀ other ∈ spans, ¬span.StrictlyInside other

theorem mem_outermost_iff {spans : List Span} {span : Span} :
    span ∈ outermost spans ↔ span ∈ spans ∧ ∀ other ∈ spans, ¬span.StrictlyInside other := by
  rw [outermost, List.mem_filter, decide_eq_true_eq]

theorem nodup_outermost {spans : List Span} (h : spans.Nodup) : (outermost spans).Nodup :=
  h.filter _

/-- Spans that are not empty, of which two different ones are apart, or one of them is a later part
of the other. -/
structure Forest (spans : List Span) : Prop where
  nonempty : ∀ span ∈ spans, span.start < span.stop
  nested_or_apart : ∀ left ∈ spans, ∀ right ∈ spans, left ≠ right →
    (left.Inside right ∧ right.start < left.start) ∨ (right.Inside left ∧ left.start < right.start) ∨
      left.Apart right

theorem Forest.subset {spans fewer : List Span} (h : Forest spans) (hsub : fewer ⊆ spans) : Forest fewer :=
  ⟨fun span hmem => h.nonempty span (hsub hmem),
    fun left hleft right hright => h.nested_or_apart left (hsub hleft) right (hsub hright)⟩

theorem Laminar.forest {text : Text} {statements : List Unbraced} (h : Laminar text statements) :
    Forest (statements.map Unbraced.body) := by
  constructor
  · intro span hmem
    obtain ⟨statement, hstatement, rfl⟩ := List.mem_map.mp hmem
    exact (h.fits statement hstatement).nonempty
  · intro left hleft right hright hne
    obtain ⟨first, hfirst, rfl⟩ := List.mem_map.mp hleft
    obtain ⟨second, hsecond, rfl⟩ := List.mem_map.mp hright
    have hstatements : first ≠ second := by
      rintro rfl
      exact hne rfl
    have hfirstFits := h.fits first hfirst
    have hsecondFits := h.fits second hsecond
    rcases h.cases_of_ne hfirst hsecond hstatements with hwithin | hwithin | hapart
    · exact Or.inr (Or.inl ⟨hwithin.body_inside hsecondFits, hwithin.body_start_lt hsecondFits⟩)
    · exact Or.inl ⟨hwithin.body_inside hfirstFits, hwithin.body_start_lt hfirstFits⟩
    · exact Or.inr (Or.inr hapart)

/-- A body is outermost exactly when its statement is in no other body. -/
theorem Laminar.body_mem_outermost_iff {text : Text} {statements : List Unbraced}
    (h : Laminar text statements) {inner : Unbraced} (hinner : inner ∈ statements) :
    inner.body ∈ outermost (statements.map Unbraced.body) ↔
      ∀ outer ∈ statements, ¬outer.Within inner := by
  rw [mem_outermost_iff, List.forall_mem_map]
  constructor
  · intro hout outer houter hwithin
    exact hout.2 outer houter ((h.strictlyInside_iff houter hinner).mpr hwithin)
  · intro hnone
    refine ⟨List.mem_map_of_mem hinner, fun outer houter hstrict => ?_⟩
    exact hnone outer houter ((h.strictlyInside_iff houter hinner).mp hstrict)

theorem Laminar.isIn_of_mem_outermost {text : Text} {statements : List Unbraced}
    (h : Laminar text statements) :
    ∀ body ∈ outermost (statements.map Unbraced.body), body.IsIn text := by
  intro body hbody
  obtain ⟨statement, hstatement, rfl⟩ := List.mem_map.mp (mem_outermost_iff.mp hbody).1
  exact (h.fits statement hstatement).body_isIn

/-- Two outermost spans are apart. -/
theorem Forest.outermost_apart {spans : List Span} (h : Forest spans) {left right : Span}
    (hleft : left ∈ outermost spans) (hright : right ∈ outermost spans) (hne : left ≠ right) :
    left.Apart right := by
  rw [mem_outermost_iff] at hleft hright
  rcases h.nested_or_apart left hleft.1 right hright.1 hne with ⟨hinside, -⟩ | ⟨hinside, -⟩ | hapart
  · exact absurd ⟨hinside, hne⟩ (hleft.2 right hright.1)
  · exact absurd ⟨hinside, hne.symm⟩ (hright.2 left hleft.1)
  · exact hapart

/-- Spans that stand one after the other and in which all others lie are the outermost ones. -/
theorem Forest.perm_outermost {spans kept : List Span} (h : Forest spans) (hnodup : spans.Nodup)
    (hsub : kept ⊆ spans) (hordered : kept.Pairwise fun earlier later => earlier.stop ≤ later.start)
    (hcovered : ∀ span ∈ spans, ∃ outer ∈ kept, span.Inside outer) : kept.Perm (outermost spans) := by
  have hnodupKept : kept.Nodup := by
    refine List.Pairwise.imp_of_mem (fun {earlier later} hearlier _ hle heq => ?_) hordered
    have hlt := h.nonempty earlier (hsub hearlier)
    rw [← heq] at hle
    omega
  have hapart : ∀ left ∈ kept, ∀ right ∈ kept, left ≠ right → left.Apart right := by
    intro left hleft right hright hne
    have hsymm : Std.Symm Span.Apart := ⟨fun _ _ hside => hside.symm⟩
    have hpairwise : kept.Pairwise Span.Apart := hordered.imp fun hle => Or.inl hle
    exact hpairwise.forall hleft hright hne
  rw [List.perm_ext_iff_of_nodup hnodupKept (nodup_outermost hnodup)]
  intro span
  rw [mem_outermost_iff]
  constructor
  · intro hspan
    refine ⟨hsub hspan, fun other hother hstrict => ?_⟩
    obtain ⟨outer, houter, hinside⟩ := hcovered other hother
    by_cases hsame : span = outer
    · rw [← hsame] at hinside
      exact hstrict.2 (hstrict.1.antisymm hinside)
    · exact (hapart span hspan outer houter hsame).not_inside (h.nonempty span (hsub hspan))
        (hstrict.1.trans hinside)
  · rintro ⟨hspan, hnone⟩
    obtain ⟨outer, houter, hinside⟩ := hcovered span hspan
    by_cases hsame : span = outer
    · rw [hsame]
      exact houter
    · exact absurd ⟨hinside, hsame⟩ (hnone outer (hsub houter))

namespace Edit

/-! ### What is kept -/

/-- Changes sorted by start. -/
def StartSorted (changes : List Change) : Prop :=
  changes.Pairwise fun earlier later => earlier.span.start ≤ later.span.start

theorem start_le_trans (first second third : Change)
    (hfirst : decide (first.span.start ≤ second.span.start) = true)
    (hsecond : decide (second.span.start ≤ third.span.start) = true) :
    decide (first.span.start ≤ third.span.start) = true := by
  rw [decide_eq_true_eq] at hfirst hsecond ⊢
  exact Nat.le_trans hfirst hsecond

theorem start_le_total (first second : Change) :
    (decide (first.span.start ≤ second.span.start) ||
      decide (second.span.start ≤ first.span.start)) = true := by
  rw [Bool.or_eq_true, decide_eq_true_eq, decide_eq_true_eq]
  exact Nat.le_total _ _

theorem startSorted_sortByStart (changes : List Change) : StartSorted (sortByStart changes) :=
  (List.pairwise_mergeSort start_le_trans start_le_total changes).imp fun hle => of_decide_eq_true hle

theorem keepFrom_sublist (last : Nat) (changes : List Change) :
    (keepFrom last changes).Sublist changes := by
  induction changes generalizing last with
  | nil => exact List.Sublist.refl _
  | cons change changes ih =>
      rw [keepFrom]
      by_cases hdrop : change.span.start < last
      · rw [if_pos hdrop]
        exact (ih last).cons change
      · rw [if_neg hdrop]
        exact (ih change.span.stop).cons_cons change

section Keep

variable {changes : List Change}

theorem le_start_of_mem_keepFrom {last : Nat} {change : Change}
    (hforward : ∀ change ∈ keepFrom last changes, change.span.start ≤ change.span.stop)
    (hmem : change ∈ keepFrom last changes) : last ≤ change.span.start := by
  induction changes generalizing last with
  | nil => cases hmem
  | cons head rest ih =>
      rw [keepFrom] at hforward hmem
      by_cases hdrop : head.span.start < last
      · rw [if_pos hdrop] at hforward hmem
        exact ih hforward hmem
      · rw [if_neg hdrop, List.forall_mem_cons] at hforward
        rw [if_neg hdrop] at hmem
        rcases List.mem_cons.mp hmem with rfl | hrest
        · exact Nat.le_of_not_lt hdrop
        · have hle := ih hforward.2 hrest
          have hhead := hforward.1
          omega

/-- A change that is kept ends before the next one starts. -/
theorem keepFrom_pairwise (last : Nat)
    (hforward : ∀ change ∈ keepFrom last changes, change.span.start ≤ change.span.stop) :
    (keepFrom last changes).Pairwise fun earlier later => earlier.span.stop ≤ later.span.start := by
  induction changes generalizing last with
  | nil => exact List.Pairwise.nil
  | cons head rest ih =>
      rw [keepFrom] at hforward ⊢
      by_cases hdrop : head.span.start < last
      · rw [if_pos hdrop] at hforward ⊢
        exact ih last hforward
      · rw [if_neg hdrop, List.forall_mem_cons] at hforward
        rw [if_neg hdrop, List.pairwise_cons]
        exact ⟨fun later hlater => le_start_of_mem_keepFrom hforward.2 hlater,
          ih head.span.stop hforward.2⟩

/-- Changes that are kept are in the order of their spans already: where two of them start together,
the first one is empty. -/
theorem sortBySpan_keep
    (hforward : ∀ change ∈ keep changes, change.span.start ≤ change.span.stop) :
    sortBySpan (keep changes) = keep changes := by
  apply List.mergeSort_of_pairwise
  refine List.Pairwise.imp_of_mem (fun {earlier later} hearlier hlater hle => ?_)
    (keepFrom_pairwise 0 hforward)
  have hfirst := hforward earlier hearlier
  have hsecond := hforward later hlater
  rcases Nat.lt_or_eq_of_le (Nat.le_trans hfirst hle) with hlt | heq
  · rw [decide_eq_true hlt, Bool.true_or]
  · have hstops : earlier.span.stop ≤ later.span.stop := Nat.le_trans hle hsecond
    rw [heq, beq_self_eq_true, Bool.true_and, decide_eq_true hstops, Bool.or_true]

/-- Whatever is dropped lies in something that is kept. -/
theorem exists_mem_keepFrom {last : Nat} {change : Change} (hsorted : StartSorted changes)
    (hforest : Forest (changes.map Change.span)) (hmem : change ∈ changes)
    (hlast : last ≤ change.span.start) :
    ∃ kept ∈ keepFrom last changes, change.span.Inside kept.span := by
  induction changes generalizing last with
  | nil => cases hmem
  | cons head rest ih =>
      obtain ⟨hhead, hrest⟩ := List.pairwise_cons.mp hsorted
      have hforestRest : Forest (rest.map Change.span) :=
        hforest.subset (List.map_subset _ (List.subset_cons_self head rest))
      rw [keepFrom]
      by_cases hdrop : head.span.start < last
      · rw [if_pos hdrop]
        rcases List.mem_cons.mp hmem with rfl | hlater
        · omega
        · exact ih hrest hforestRest hlater hlast
      · rw [if_neg hdrop]
        by_cases hsame : change.span = head.span
        · refine ⟨head, List.mem_cons_self, ?_⟩
          rw [hsame]
          exact ⟨Nat.le_refl _, Nat.le_refl _⟩
        · have hlater : change ∈ rest := by
            rcases List.mem_cons.mp hmem with rfl | hlater
            · exact absurd rfl hsame
            · exact hlater
          have hnonempty := hforest.nonempty change.span (List.mem_map_of_mem hmem)
          have hstart := hhead change hlater
          by_cases hafter : head.span.stop ≤ change.span.start
          · obtain ⟨kept, hkept, hinside⟩ := ih hrest hforestRest hlater hafter
            exact ⟨kept, List.mem_cons_of_mem _ hkept, hinside⟩
          · rcases hforest.nested_or_apart change.span (List.mem_map_of_mem hmem) head.span
              (List.mem_map_of_mem List.mem_cons_self) hsame with ⟨hinside, -⟩ | ⟨-, hlt⟩ | hapart
            · exact ⟨head, List.mem_cons_self, hinside⟩
            · omega
            · rcases hapart with hle | hle <;> omega

/-- The spans of what is kept are the outermost spans, each once. -/
theorem keep_perm_outermost {bodies : List Span} (hforest : Forest bodies) (hnodup : bodies.Nodup)
    (hmem : ∀ span, span ∈ bodies ↔ ∃ change ∈ changes, change.span = span) :
    ((keep changes).map Change.span).Perm (outermost bodies) := by
  have hsorted : (sortByStart changes).map Change.span ⊆ bodies := by
    intro span hspan
    obtain ⟨change, hchange, heq⟩ := List.mem_map.mp hspan
    exact (hmem span).mpr ⟨change, List.mem_mergeSort.mp hchange, heq⟩
  have hkept : (keep changes).map Change.span ⊆ bodies :=
    fun _ hspan => hsorted (((keepFrom_sublist 0 _).map _).subset hspan)
  have hordered : ((keep changes).map Change.span).Pairwise fun earlier later =>
      earlier.stop ≤ later.start := by
    rw [List.pairwise_map]
    exact keepFrom_pairwise 0 fun change hchange =>
      Nat.le_of_lt (hforest.nonempty _ (hkept (List.mem_map_of_mem hchange)))
  refine hforest.perm_outermost hnodup hkept hordered fun span hspan => ?_
  obtain ⟨change, hchange, rfl⟩ := (hmem span).mp hspan
  obtain ⟨kept, hkeptMem, hinside⟩ := exists_mem_keepFrom (startSorted_sortByStart changes)
    (hforest.subset hsorted) (List.mem_mergeSort.mpr hchange) (Nat.zero_le _)
  exact ⟨kept.span, List.mem_map_of_mem hkeptMem, hinside⟩

end Keep

/-! ### What is written -/

theorem copy_eq_ok {left piece : Text} (right : Text) {start stop : Nat} (hstart : left.size = start)
    (hstop : (left ++ piece).size = stop) : copy (left ++ piece ++ right) ⟨start, stop⟩ = .ok piece := by
  rw [copy]
  by_cases hlt : start < stop
  · rw [if_pos hlt, Text.slice?_parts hstart hstop]
  · have hsize : piece.size = 0 := by
      rw [Text.size_append] at hstop
      omega
    rw [if_neg hlt, Text.size_eq_zero_iff.mp hsize]

/-- Changes that put braces around what stands in their spans, each behind the one before it, write
the text with these braces. What comes before the first change has been written already. -/
theorem exists_spliceFrom {text left right : Text} {last : Nat} {changes : List Change}
    (htext : text = left ++ right) (hsize : left.size = last)
    (hbraces : ∀ change ∈ changes, ∃ inner, text.slice? change.span = some inner ∧
      change.newText = Curly.brace inner)
    (hforward : ∀ change ∈ changes, change.span.start < change.span.stop)
    (hordered : changes.Pairwise fun earlier later => earlier.span.stop ≤ later.span.start)
    (hlast : ∀ change ∈ changes, last ≤ change.span.start) :
    ∃ written, spliceFrom text last changes = .ok written ∧
      left ++ written = text.braced (changes.map Change.span) := by
  induction changes generalizing left right last with
  | nil =>
      refine ⟨right, ?_, ?_⟩
      · have hcopy : copy (left ++ right ++ []) ⟨last, (left ++ right).size⟩ = .ok right :=
          copy_eq_ok [] hsize rfl
        rw [List.append_nil] at hcopy
        rw [spliceFrom, htext, hcopy]
      · rw [List.map_nil, Text.braced_nil, htext]
  | cons change changes ih =>
      rw [List.forall_mem_cons] at hbraces hforward hlast
      obtain ⟨hbehind, horderedRest⟩ := List.pairwise_cons.mp hordered
      obtain ⟨⟨inner, hslice, hnew⟩, hbracesRest⟩ := hbraces
      obtain ⟨front, back, hparts, hstart, hstop⟩ := Text.slice?_eq_some_iff.mp hslice
      have hsame : left ++ right = front ++ (inner ++ back) := by
        rw [← htext, hparts, List.append_assoc]
      obtain ⟨before, rfl, -⟩ := Text.exists_between hsame (by omega)
      obtain ⟨after, hafter, hbraced⟩ := ih hparts hstop hbracesRest hforward.2 horderedRest hbehind
      refine ⟨before ++ change.newText ++ after, ?_, ?_⟩
      · have hcopy : copy text ⟨last, min text.size change.span.start⟩ = .ok before := by
          have hle : change.span.start ≤ text.size := by
            rw [hparts, List.append_assoc, Text.size_append, hstart]
            exact Nat.le_add_right _ _
          rw [Nat.min_eq_right hle, hparts, List.append_assoc]
          exact copy_eq_ok (inner ++ back) hsize hstart
        rw [spliceFrom, if_neg (by omega), if_neg (by omega), hcopy]
        change (do return before ++ change.newText ++ (← spliceFrom text change.span.stop changes) :
          Except Failure Text) = _
        rw [hafter]
        rfl
      · have hin : ∀ body ∈ changes.map Change.span, body.IsIn text := by
          intro body hbody
          obtain ⟨other, hother, rfl⟩ := List.mem_map.mp hbody
          obtain ⟨piece, hpiece, -⟩ := hbracesRest other hother
          obtain ⟨first, last, rfl, hfirst, hlast⟩ := Text.slice?_eq_some_iff.mp hpiece
          exact Span.isIn_of_parts last hfirst hlast
        have hlater : ∀ body ∈ changes.map Change.span,
            change.span.stop ≤ body.start ∧ body.start < body.stop := by
          intro body hbody
          obtain ⟨other, hother, rfl⟩ := List.mem_map.mp hbody
          exact ⟨hbehind other hother, hforward.2 other hother⟩
        rw [List.map_cons, Text.braced_cons_of_behind hparts hstart hstop hforward.1 hin hlater hbraced,
          hnew]
        simp only [List.append_assoc]

/-- Changes that put braces around bodies, taken together, put braces around the outermost of these
bodies. -/
theorem splice_keep {text : Text} {changes : List Change} {bodies : List Span}
    (hforest : Forest bodies) (hnodup : bodies.Nodup)
    (hmem : ∀ span, span ∈ bodies ↔ ∃ change ∈ changes, change.span = span)
    (hbraces : ∀ change ∈ changes, ∃ inner, text.slice? change.span = some inner ∧
      change.newText = Curly.brace inner) :
    splice text (keep changes) = .ok (text.braced (outermost bodies)) := by
  have hsubset : ∀ change ∈ sortByStart changes, change ∈ changes :=
    fun change hchange => List.mem_mergeSort.mp hchange
  have hkept : ∀ change ∈ keep changes, change ∈ changes := fun change hchange =>
    hsubset change ((keepFrom_sublist 0 _).subset hchange)
  have hforward : ∀ change ∈ changes, change.span.start < change.span.stop :=
    fun change hchange => hforest.nonempty _ ((hmem _).mpr ⟨change, hchange, rfl⟩)
  have hordered : (keep changes).Pairwise fun earlier later => earlier.span.stop ≤ later.span.start :=
    keepFrom_pairwise 0 fun change hchange => Nat.le_of_lt (hforward change (hkept change hchange))
  have hsorted : sortBySpan (keep changes) = keep changes :=
    sortBySpan_keep fun change hchange => Nat.le_of_lt (hforward change (hkept change hchange))
  obtain ⟨written, hwritten, htext⟩ := exists_spliceFrom (List.nil_append text).symm Text.size_nil
    (fun change hchange => hbraces change (hkept change hchange))
    (fun change hchange => hforward change (hkept change hchange)) hordered
    fun change _ => Nat.zero_le _
  rw [splice, hsorted, hwritten, ← List.nil_append written, htext,
    Text.braced_perm (keep_perm_outermost hforest hnodup hmem)]

end Edit

/-! ### Diagnostics taken together -/

section Drawn

variable {specifier : Url} {text : Text} {statements : List Unbraced}

theorem Curly.Reports.mem_proposed_iff {rule : Curly} {statement : Unbraced} {diagnostic : Diagnostic}
    (h : rule.Reports specifier text statement diagnostic) {change : Change} :
    change ∈ (diagnostic.fixes.head?.map Fix.changes).getD [] ↔ rule = Curly.fixable ∧
      ∃ inner, text.slice? statement.body = some inner ∧
        change = ⟨statement.body, Curly.brace inner⟩ := by
  obtain ⟨inner, hslice, hfixes⟩ := h.exists_fixes
  obtain ⟨fix⟩ := rule
  rw [hfixes, hslice]
  cases fix with
  | false => simp [Curly.fixable]
  | true => simp [Curly.fixable]

/-- Diagnostics of the rule, taken together, put braces around the outermost of the bodies they offer
to put in braces. -/
theorem applyFirstFixes_eq (h : Laminar text statements) {drawn : List Diagnostic} {bodies : List Span}
    (hdrawn : ∀ diagnostic ∈ drawn, ∃ rule : Curly, ∃ statement ∈ statements,
      rule.Reports specifier text statement diagnostic)
    (hnodup : bodies.Nodup)
    (hmem : ∀ span, span ∈ bodies ↔ ∃ diagnostic ∈ drawn, ∃ statement ∈ statements,
      Curly.fixable.Reports specifier text statement diagnostic ∧ statement.body = span) :
    applyFirstFixes text drawn = .ok (text.braced (outermost bodies)) := by
  have hproposed : ∀ change, change ∈ Edit.proposed (drawn.map Diagnostic.fixes) ↔
      ∃ diagnostic ∈ drawn, ∃ statement ∈ statements,
        Curly.fixable.Reports specifier text statement diagnostic ∧
          ∃ inner, text.slice? statement.body = some inner ∧
            change = ⟨statement.body, Curly.brace inner⟩ := by
    intro change
    rw [Edit.proposed, List.mem_flatMap]
    constructor
    · rintro ⟨fixes, hfixes, hchange⟩
      obtain ⟨diagnostic, hdiagnostic, rfl⟩ := List.mem_map.mp hfixes
      obtain ⟨rule, statement, hstatement, hreports⟩ := hdrawn diagnostic hdiagnostic
      obtain ⟨rfl, hinner⟩ := hreports.mem_proposed_iff.mp hchange
      exact ⟨diagnostic, hdiagnostic, statement, hstatement, hreports, hinner⟩
    · rintro ⟨diagnostic, hdiagnostic, statement, hstatement, hreports, hinner⟩
      exact ⟨diagnostic.fixes, List.mem_map_of_mem hdiagnostic,
        hreports.mem_proposed_iff.mpr ⟨rfl, hinner⟩⟩
  have hforest : Forest bodies := by
    refine h.forest.subset fun span hspan => ?_
    obtain ⟨_, _, statement, hstatement, _, rfl⟩ := (hmem span).mp hspan
    exact List.mem_map_of_mem hstatement
  refine Edit.splice_keep hforest hnodup (fun span => ?_) fun change hchange => ?_
  · rw [hmem]
    constructor
    · rintro ⟨diagnostic, hdiagnostic, statement, hstatement, hreports, rfl⟩
      obtain ⟨inner, hslice, -⟩ := hreports.exists_fixes
      exact ⟨_, (hproposed _).mpr
        ⟨diagnostic, hdiagnostic, statement, hstatement, hreports, inner, hslice, rfl⟩, rfl⟩
    · rintro ⟨change, hchange, rfl⟩
      obtain ⟨diagnostic, hdiagnostic, statement, hstatement, hreports, inner, -, rfl⟩ :=
        (hproposed change).mp hchange
      exact ⟨diagnostic, hdiagnostic, statement, hstatement, hreports, rfl⟩
  · obtain ⟨_, _, statement, _, _, inner, hslice, rfl⟩ := (hproposed change).mp hchange
    exact ⟨inner, hslice, rfl⟩

theorem Curly.Reports.body_eq {statement statement' : Unbraced} {diagnostic : Diagnostic}
    (h : Curly.fixable.Reports specifier text statement diagnostic)
    (h' : Curly.fixable.Reports specifier text statement' diagnostic) :
    statement.body = statement'.body := by
  obtain ⟨inner, -, hfixes⟩ := h.exists_fixes
  obtain ⟨inner', -, hfixes'⟩ := h'.exists_fixes
  rw [hfixes] at hfixes'
  simp only [Curly.fixable, if_true, List.cons.injEq, Fix.mk.injEq, Change.mk.injEq] at hfixes'
  exact hfixes'.1.2.1.1

theorem Curly.Reports.not_reportOnly {statement statement' : Unbraced} {diagnostic : Diagnostic}
    (h : Curly.fixable.Reports specifier text statement diagnostic) :
    ¬Curly.reportOnly.Reports specifier text statement' diagnostic := by
  intro h'
  obtain ⟨inner, -, hfixes⟩ := h.exists_fixes
  obtain ⟨inner', -, hfixes'⟩ := h'.exists_fixes
  rw [hfixes] at hfixes'
  simp [Curly.fixable, Curly.reportOnly] at hfixes'

end Drawn

theorem exists_mem_zip {α β : Type} {left : List α} {right : List β} {item : β}
    (hlength : left.length = right.length) (hmem : item ∈ right) :
    ∃ partner, (partner, item) ∈ left.zip right := by
  rw [← List.map_snd_zip (Nat.le_of_eq hlength.symm)] at hmem
  obtain ⟨⟨partner, item⟩, hpair, rfl⟩ := List.mem_map.mp hmem
  exact ⟨partner, hpair⟩

theorem exists_partner {α β : Type} {R : α → β → Prop} {left : List α} {right : List β}
    (h : List.Forall₂ R left right) {item : β} (hmem : item ∈ right) : ∃ partner ∈ left, R partner item := by
  obtain ⟨partner, hpair⟩ := exists_mem_zip h.length_eq hmem
  exact ⟨partner, (List.of_mem_zip hpair).1, List.forall₂_zip h hpair⟩

/-- All diagnostics of the rule that repairs put braces around the outermost bodies. -/
theorem applyFirstFixes_of_reports {specifier : Url} {text : Text} {statements : List Unbraced}
    {diagnostics : List Diagnostic} (h : Laminar text statements)
    (hreports : List.Forall₂ (Curly.fixable.Reports specifier text) statements diagnostics) :
    applyFirstFixes text diagnostics =
      .ok (text.braced (outermost (statements.map Unbraced.body))) := by
  have hdrawn : ∀ diagnostic ∈ diagnostics, ∃ rule : Curly, ∃ statement ∈ statements,
      rule.Reports specifier text statement diagnostic := fun diagnostic hdiagnostic =>
    ⟨Curly.fixable, exists_partner hreports hdiagnostic⟩
  refine applyFirstFixes_eq h hdrawn h.nodup_bodies fun span => ?_
  rw [List.mem_map]
  constructor
  · rintro ⟨statement, hstatement, hbody⟩
    obtain ⟨diagnostic, hdiagnostic, hown⟩ := exists_partner hreports.flip hstatement
    exact ⟨diagnostic, hdiagnostic, statement, hstatement, hown, hbody⟩
  · rintro ⟨_, _, statement, hstatement, _, hbody⟩
    exact ⟨statement, hstatement, hbody⟩

/-- The bodies of the statements whose diagnostics have been drawn. -/
def drawnBodies (reported : List (Unbraced × Diagnostic)) (drawn : List Diagnostic) : List Span :=
  (reported.filter fun pair => pair.2 ∈ drawn).map fun pair => pair.1.body

theorem mem_drawnBodies_iff {reported : List (Unbraced × Diagnostic)} {drawn : List Diagnostic}
    {span : Span} : span ∈ drawnBodies reported drawn ↔
      ∃ statement diagnostic, (statement, diagnostic) ∈ reported ∧ diagnostic ∈ drawn ∧
        statement.body = span := by
  simp only [drawnBodies, List.mem_map, List.mem_filter, decide_eq_true_eq, Prod.exists, and_assoc]

theorem nodup_drawnBodies {statements : List Unbraced} {diagnostics drawn : List Diagnostic}
    (hlength : statements.length = diagnostics.length) (h : (statements.map Unbraced.body).Nodup) :
    (drawnBodies (statements.zip diagnostics) drawn).Nodup := by
  rw [← List.map_fst_zip (Nat.le_of_eq hlength), List.map_map] at h
  exact h.sublist (List.filter_sublist.map _)

/-- **Fixes taken together put braces around the outermost bodies.** Whichever diagnostics of a
program are drawn, in any order and any number of times, those that repair and those that only report:
applying them succeeds, and what comes out is the text with braces around those bodies of the repairing
ones that are in no other such body. -/
theorem applyFirstFixes_drawn (specifier : Url) {text : Text} {tree : Tree} (h : tree.WellNested text) :
    ∃ fixable reported,
      lintTree [Curly.fixable.toRule] specifier text tree = .ok fixable ∧
      List.Forall₂ (Curly.fixable.Reports specifier text) tree.unbraced fixable ∧
      lintTree [Curly.reportOnly.toRule] specifier text tree = .ok reported ∧
      List.Forall₂ (Curly.reportOnly.Reports specifier text) tree.unbraced reported ∧
      ∀ drawn : List Diagnostic, (∀ diagnostic ∈ drawn, diagnostic ∈ fixable ∨ diagnostic ∈ reported) →
        let bodies := outermost (drawnBodies (tree.unbraced.zip fixable) drawn)
        applyFirstFixes text drawn = .ok (text.braced bodies) ∧
          bodies.Pairwise Span.Apart ∧ bodies.Nodup ∧
          (text.braced bodies).withoutBraces bodies = text := by
  obtain ⟨fixable, hlint, hfixable⟩ :=
    exists_lintTree_reports Curly.fixable specifier h.laminar.isIn
  obtain ⟨reported, hlint', hreported⟩ :=
    exists_lintTree_reports Curly.reportOnly specifier h.laminar.isIn
  refine ⟨fixable, reported, hlint, hfixable, hlint', hreported, fun drawn hdrawn => ?_⟩
  have hnodup : (drawnBodies (tree.unbraced.zip fixable) drawn).Nodup :=
    nodup_drawnBodies hfixable.length_eq h.laminar.nodup_bodies
  have hmem : ∀ span, span ∈ drawnBodies (tree.unbraced.zip fixable) drawn ↔
      ∃ diagnostic ∈ drawn, ∃ statement ∈ tree.unbraced,
        Curly.fixable.Reports specifier text statement diagnostic ∧ statement.body = span := by
    intro span
    rw [mem_drawnBodies_iff]
    constructor
    · rintro ⟨statement, diagnostic, hpair, hdiagnostic, hbody⟩
      exact ⟨diagnostic, hdiagnostic, statement, (List.of_mem_zip hpair).1,
        List.forall₂_zip hfixable hpair, hbody⟩
    · rintro ⟨diagnostic, hdiagnostic, statement, -, hreports, hbody⟩
      rcases hdrawn diagnostic hdiagnostic with hown | hother
      · obtain ⟨statement', hpair⟩ := exists_mem_zip hfixable.length_eq hown
        exact ⟨statement', diagnostic, hpair, hdiagnostic,
          ((List.forall₂_zip hfixable hpair).body_eq hreports).trans hbody⟩
      · obtain ⟨statement', -, hreports'⟩ := exists_partner hreported hother
        exact absurd hreports' hreports.not_reportOnly
  have happly := applyFirstFixes_eq h.laminar (fun diagnostic hdiagnostic => ?_) hnodup hmem
  · have hforest : Forest (drawnBodies (tree.unbraced.zip fixable) drawn) := by
      refine h.laminar.forest.subset fun span hspan => ?_
      obtain ⟨_, _, statement, hstatement, _, rfl⟩ := (hmem span).mp hspan
      exact List.mem_map_of_mem hstatement
    have hapart := (nodup_outermost hnodup).imp_of_mem fun hleft hright hne =>
      hforest.outermost_apart hleft hright hne
    exact ⟨happly, hapart, nodup_outermost hnodup, Text.withoutBraces_braced _ _⟩
  · rcases hdrawn diagnostic hdiagnostic with hown | hother
    · exact ⟨Curly.fixable, exists_partner hfixable hown⟩
    · exact ⟨Curly.reportOnly, exists_partner hreported hother⟩

namespace LoopAroundIf

/-- The diagnostic of the loop, which repairs its body. -/
def loop : Diagnostic :=
  .expected SourceFile.exampleUrl ⟨0, 0, 0⟩ ⟨0, 21, 21⟩ "Use curly braces for \x60while\x60 statement"
    ⟨10, 21⟩ "\x7b\nif (b) c();\x7d"

/-- The diagnostic of the `if` in the loop. -/
def branch : Diagnostic :=
  .expected SourceFile.exampleUrl ⟨0, 10, 10⟩ ⟨0, 21, 21⟩ "Use curly braces for \x60if\x60 statement"
    ⟨17, 21⟩ "\x7b\nc();\x7d"

end LoopAroundIf

/-- The `if` twice and the loop without its repair put braces around the body of the `if`; the repairs
of both around the body of the loop. -/
theorem loopAroundIf_applyFirstFixes :
    LoopAroundIf.tree.WellNested LoopAroundIf.text ∧
      lintTree [Curly.fixable.toRule] SourceFile.exampleUrl LoopAroundIf.text LoopAroundIf.tree =
        .ok [LoopAroundIf.loop, LoopAroundIf.branch] ∧
      lintTree [Curly.reportOnly.toRule] SourceFile.exampleUrl LoopAroundIf.text LoopAroundIf.tree =
        .ok [{ LoopAroundIf.loop with fixes := [] }, { LoopAroundIf.branch with fixes := [] }] ∧
      applyFirstFixes LoopAroundIf.text
          [LoopAroundIf.branch, { LoopAroundIf.loop with fixes := [] }, LoopAroundIf.branch] =
        .ok "while (a) if (b) \x7b\nc();\x7d".toList ∧
      applyFirstFixes LoopAroundIf.text
          [LoopAroundIf.branch, { LoopAroundIf.branch with fixes := [] }, LoopAroundIf.loop] =
        .ok "while (a) \x7b\nif (b) c();\x7d".toList ∧
      Text.withoutBraces "while (a) \x7b\nif (b) c();\x7d".toList [⟨10, 21⟩] = LoopAroundIf.text := by
  have hnested : LoopAroundIf.tree.WellNested LoopAroundIf.text := by decide
  obtain ⟨fixable, reported, hlint, -, hlint', -, hdrawn⟩ :=
    applyFirstFixes_drawn SourceFile.exampleUrl hnested
  have hfixable : lintTree [Curly.fixable.toRule] SourceFile.exampleUrl LoopAroundIf.text
      LoopAroundIf.tree = .ok [LoopAroundIf.loop, LoopAroundIf.branch] := by
    decide +kernel
  have hreported : lintTree [Curly.reportOnly.toRule] SourceFile.exampleUrl LoopAroundIf.text
      LoopAroundIf.tree =
        .ok [{ LoopAroundIf.loop with fixes := [] }, { LoopAroundIf.branch with fixes := [] }] := by
    decide +kernel
  obtain rfl := Except.ok.inj (hfixable.symm.trans hlint)
  obtain rfl := Except.ok.inj (hreported.symm.trans hlint')
  obtain ⟨hinner, -⟩ := hdrawn
    [LoopAroundIf.branch, { LoopAroundIf.loop with fixes := [] }, LoopAroundIf.branch] (by simp)
  obtain ⟨houter, -, -, hwithout⟩ := hdrawn
    [LoopAroundIf.branch, { LoopAroundIf.branch with fixes := [] }, LoopAroundIf.loop] (by simp)
  exact ⟨hnested, hlint, hlint', hinner.trans (by decide +kernel), houter.trans (by decide +kernel),
    Eq.trans (by decide +kernel) hwithout⟩

end BraceLint
