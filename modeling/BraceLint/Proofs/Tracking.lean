import BraceLint.FixLoop
import BraceLint.Proofs.Outermost

/-! Parsers that find statements again. When some bodies of a program have got braces, the parser finds
the other statements where the braces have moved them. For such a parser the texts that fixing goes
through are the first text with braces around more and more of its bodies, and it is enough to know
which bodies these are: a pass adds the outermost of the bodies that are left, and a single fix adds
one of them. -/

namespace BraceLint

/-! ### Statements that are left -/

section Remaining

variable {text : Text} {statements : List Unbraced}

theorem mem_leftOver_iff {bodies : List Span} {statement : Unbraced} :
    statement ∈ leftOver statements bodies ↔ statement ∈ statements ∧ statement.body ∉ bodies := by
  rw [leftOver, List.mem_filter, decide_eq_true_eq]

/-- With braces around the outermost bodies, the statements in the bodies of other ones are left. -/
theorem Laminar.leftOver_outermost (h : Laminar text statements) :
    leftOver statements (outermost (statements.map Unbraced.body)) =
      statements.filter fun inner => ∃ outer ∈ statements, outer.Within inner := by
  apply List.filter_congr
  intro inner hinner
  rw [decide_eq_decide, h.body_mem_outermost_iff hinner]
  push Not
  rfl

theorem Laminar.mem_leftOver_outermost_iff (h : Laminar text statements) {inner : Unbraced} :
    inner ∈ leftOver statements (outermost (statements.map Unbraced.body)) ↔
      inner ∈ statements ∧ ∃ outer ∈ statements, outer.Within inner := by
  rw [h.leftOver_outermost, List.mem_filter, decide_eq_true_eq]

theorem leftOver_nil (statements : List Unbraced) : leftOver statements [] = statements := by
  rw [leftOver, List.filter_eq_self]
  intro statement _
  exact decide_eq_true List.not_mem_nil

theorem remaining_nil (statements : List Unbraced) : remaining statements [] = statements := by
  rw [remaining, leftOver_nil]
  exact List.map_id statements

theorem leftOver_append (statements : List Unbraced) (bodies others : List Span) :
    leftOver statements (bodies ++ others) = leftOver (leftOver statements bodies) others := by
  rw [leftOver, leftOver, leftOver, List.filter_filter]
  apply List.filter_congr
  intro statement _
  simp only [List.mem_append, not_or, Bool.decide_and, Bool.and_comm]

theorem leftOver_perm {bodies bodies' : List Span} (h : bodies.Perm bodies') (statements : List Unbraced) :
    leftOver statements bodies = leftOver statements bodies' := by
  rw [leftOver, leftOver]
  apply List.filter_congr
  intro statement _
  rw [decide_eq_decide, h.mem_iff]

/-- Some of a list of spans, in the order of the list. -/
theorem perm_filter_mem {bodies spans : List Span} (hnodup : bodies.Nodup) (hspans : spans.Nodup)
    (hsub : bodies ⊆ spans) : bodies.Perm (spans.filter fun span => span ∈ bodies) := by
  rw [List.perm_ext_iff_of_nodup hnodup (hspans.filter _)]
  intro body
  rw [List.mem_filter, decide_eq_true_eq]
  exact ⟨fun hbody => ⟨hsub hbody, hbody⟩, fun hbody => hbody.2⟩

/-- Every statement has got braces or is left. -/
theorem length_add_leftOver {bodies : List Span} (h : Laminar text statements) (hnodup : bodies.Nodup)
    (hsub : bodies ⊆ statements.map Unbraced.body) :
    bodies.length + (leftOver statements bodies).length = statements.length := by
  have hlength := (perm_filter_mem hnodup h.nodup_bodies hsub).length_eq
  rw [List.filter_map, List.length_map] at hlength
  have hsplit := List.length_eq_length_filter_add (l := statements)
    fun statement => decide (statement.body ∈ bodies)
  rw [hsplit, hlength, leftOver]
  simp only [decide_not]
  rfl

theorem remaining_perm {bodies bodies' : List Span} (h : bodies.Perm bodies')
    (statements : List Unbraced) : remaining statements bodies = remaining statements bodies' := by
  rw [remaining, remaining, leftOver_perm h]
  apply List.map_congr_left
  intro statement _
  rw [Unbraced.moved, Unbraced.moved, Span.moved_perm h, Span.moved_perm h]

/-- Putting braces around some bodies and then around others leaves what putting them around all of
these bodies leaves. -/
theorem remaining_remaining (statements : List Unbraced) (bodies others : List Span) :
    remaining (remaining statements bodies) (others.map fun other => other.moved bodies) =
      remaining statements (bodies ++ others) := by
  rw [remaining, remaining, remaining, leftOver, List.filter_map, List.map_map, leftOver_append]
  have hfilter : (leftOver statements bodies).filter ((fun statement =>
        decide (statement.body ∉ others.map fun other => other.moved bodies)) ∘
          fun statement => statement.moved bodies) = leftOver (leftOver statements bodies) others := by
    apply List.filter_congr
    intro statement _
    simp only [Function.comp_apply, Unbraced.moved]
    rw [decide_eq_decide, List.mem_map_of_injective (Span.moved_injective bodies)]
  rw [hfilter]
  apply List.map_congr_left
  intro statement _
  simp only [Function.comp_apply, Unbraced.moved, Span.moved_moved]

theorem Laminar.remaining {bodies : List Span} (h : Laminar text statements)
    (hbodies : ∀ body ∈ bodies, body.IsIn text) :
    Laminar (text.braced bodies) (remaining statements bodies) :=
  (h.sublist List.filter_sublist).moved hbodies

theorem map_body_remaining (statements : List Unbraced) (bodies : List Span) :
    (remaining statements bodies).map Unbraced.body =
      ((leftOver statements bodies).map Unbraced.body).map fun body => body.moved bodies := by
  rw [BraceLint.remaining, List.map_map, List.map_map]
  rfl

end Remaining

/-- Braces do not change which span is in which one. -/
theorem Forest.moved_strictlyInside_iff {spans : List Span} (h : Forest spans) (bodies : List Span)
    {inner outer : Span} (hinner : inner ∈ spans) (houter : outer ∈ spans) :
    (inner.moved bodies).StrictlyInside (outer.moved bodies) ↔ inner.StrictlyInside outer := by
  constructor
  · rintro ⟨hinside, hne⟩
    have hspans : inner ≠ outer := fun heq => hne (congrArg (fun span => Span.moved span bodies) heq)
    rcases h.nested_or_apart inner hinner outer houter hspans with
      ⟨hwithin, -⟩ | ⟨-, hlt⟩ | hapart
    · exact ⟨hwithin, hspans⟩
    · have hstart := hinside.1
      have := Span.moved_start_lt bodies hlt
      omega
    · exact absurd hinside ((Span.moved_apart bodies hapart).not_inside
        (Span.moved_start_lt_stop bodies (h.nonempty inner hinner)))
  · rintro ⟨hinside, hne⟩
    exact ⟨Span.moved_inside bodies hinside, fun heq => hne (Span.moved_injective bodies heq)⟩

theorem Forest.outermost_moved {spans : List Span} (h : Forest spans) (bodies : List Span) :
    outermost (spans.map fun span => span.moved bodies) =
      (outermost spans).map fun span => span.moved bodies := by
  rw [outermost, outermost, List.filter_map]
  congr 1
  apply List.filter_congr
  intro span hspan
  rw [Function.comp_apply, decide_eq_decide, List.forall_mem_map]
  constructor
  · intro hnone other hother hstrict
    exact hnone other hother ((h.moved_strictlyInside_iff bodies hspan hother).mpr hstrict)
  · intro hnone other hother hstrict
    exact hnone other hother ((h.moved_strictlyInside_iff bodies hspan hother).mp hstrict)

theorem outermost_singleton (span : Span) : outermost [span] = [span] := by
  rw [outermost, List.filter_eq_self]
  intro other hother
  rw [List.mem_singleton.mp hother, decide_eq_true_eq]
  intro same hsame hstrict
  exact hstrict.2 (List.mem_singleton.mp hsame).symm

/-! ### Linting and fixing a text with braces -/

theorem exists_lintFile_reports {parser : Parser} (file : SourceFile) {tree : Tree}
    (hparse : parser file.specifier file.mediaType file.text = .ok tree)
    (hlaminar : Laminar file.text tree.unbraced) :
    ∃ diagnostics, lintFile parser [Curly.fixable.toRule] file = .ok diagnostics ∧
      List.Forall₂ (Curly.fixable.Reports file.specifier file.text) tree.unbraced diagnostics := by
  obtain ⟨diagnostics, hlint, hreports⟩ :=
    exists_lintTree_reports Curly.fixable file.specifier hlaminar.isIn
  refine ⟨diagnostics, ?_, hreports⟩
  simp only [lintFile, hparse, hlint]

/-- Whichever bodies of the statements of a text have got braces, a parser finds the other statements
where the braces have moved them. -/
structure Parser.Tracks (parser : Parser) (specifier : Url) (text : Text)
    (statements : List Unbraced) : Prop where
  laminar : Laminar text statements
  reads : ∀ bodies : List Span, bodies.Nodup → bodies ⊆ statements.map Unbraced.body →
    ∃ tree, parser specifier (MediaType.ofUrl specifier) (text.braced bodies) = .ok tree ∧
      tree.unbraced = remaining statements bodies

/-- A text is settled for the rule that repairs when it has no diagnostics. -/
theorem isSettled_iff {specifier : Url} {text : Text} {statements : List Unbraced}
    {diagnostics : List Diagnostic}
    (h : List.Forall₂ (Curly.fixable.Reports specifier text) statements diagnostics) :
    isSettled diagnostics = true ↔ statements = [] := by
  cases h with
  | nil => exact iff_of_true rfl rfl
  | cons hhead htail =>
      obtain ⟨inner, -, hfixes⟩ := hhead.exists_fixes
      rw [isSettled, List.all_cons, hfixes]
      simp [Curly.fixable]

namespace Parser.Tracks

variable {parser : Parser} {specifier : Url} {text : Text} {statements : List Unbraced}
  {bodies : List Span}

theorem isIn_of_subset (h : parser.Tracks specifier text statements)
    (hsub : bodies ⊆ statements.map Unbraced.body) : ∀ body ∈ bodies, body.IsIn text := by
  intro body hbody
  obtain ⟨statement, hstatement, rfl⟩ := List.mem_map.mp (hsub hbody)
  exact (h.laminar.fits statement hstatement).body_isIn

/-- Linting a text with some braces gives a diagnostic for each of the statements that are left. -/
theorem exists_lintText (h : parser.Tracks specifier text statements) (hnodup : bodies.Nodup)
    (hsub : bodies ⊆ statements.map Unbraced.body) :
    ∃ diagnostics,
      lintText parser [Curly.fixable.toRule] specifier (text.braced bodies) = .ok diagnostics ∧
      List.Forall₂ (Curly.fixable.Reports specifier (text.braced bodies))
        (remaining statements bodies) diagnostics := by
  obtain ⟨tree, htree, hunbraced⟩ := h.reads bodies hnodup hsub
  have hlaminar := h.laminar.remaining (h.isIn_of_subset hsub)
  rw [← hunbraced] at hlaminar ⊢
  exact exists_lintFile_reports (SourceFile.ofUrl specifier (text.braced bodies)) htree hlaminar

variable {diagnostics : List Diagnostic}

/-- A pass puts braces around the outermost of the bodies that are left. -/
theorem applyFirstFixes_all (h : parser.Tracks specifier text statements)
    (hsub : bodies ⊆ statements.map Unbraced.body)
    (hreports : List.Forall₂ (Curly.fixable.Reports specifier (text.braced bodies))
      (remaining statements bodies) diagnostics) :
    applyFirstFixes (text.braced bodies) diagnostics =
      .ok (text.braced (outermost ((leftOver statements bodies).map Unbraced.body) ++ bodies)) := by
  have hlaminar := h.laminar.remaining (h.isIn_of_subset hsub)
  have hleft : Laminar text (leftOver statements bodies) := h.laminar.sublist List.filter_sublist
  rw [applyFirstFixes_of_reports hlaminar hreports, map_body_remaining, hleft.forest.outermost_moved,
    Text.braced_braced]
  · exact h.isIn_of_subset hsub
  · exact hleft.isIn_of_mem_outermost
  · intro body hbody
    exact hleft.forest.nonempty body (mem_outermost_iff.mp hbody).1

/-- A single fix puts braces around one of the bodies that are left. -/
theorem applyFirstFixes_one (h : parser.Tracks specifier text statements)
    (hsub : bodies ⊆ statements.map Unbraced.body)
    (hreports : List.Forall₂ (Curly.fixable.Reports specifier (text.braced bodies))
      (remaining statements bodies) diagnostics)
    {diagnostic : Diagnostic} (hmem : diagnostic ∈ diagnostics) :
    ∃ statement ∈ leftOver statements bodies, applyFirstFixes (text.braced bodies) [diagnostic] =
      .ok (text.braced (statement.body :: bodies)) := by
  have hlaminar := h.laminar.remaining (h.isIn_of_subset hsub)
  obtain ⟨found, hfound, hown⟩ := exists_partner hreports hmem
  obtain ⟨statement, hstatement, rfl⟩ := List.mem_map.mp hfound
  have hfits := h.laminar.fits statement (mem_leftOver_iff.mp hstatement).1
  refine ⟨statement, hstatement, ?_⟩
  have happly := applyFirstFixes_eq hlaminar (fun other hother => by
    rw [List.mem_singleton.mp hother]
    exact ⟨Curly.fixable, _, hfound, hown⟩) (List.nodup_singleton (statement.moved bodies).body)
    fun span => by
      constructor
      · intro hspan
        exact ⟨diagnostic, List.mem_singleton_self _, _, hfound, hown, (List.mem_singleton.mp hspan).symm⟩
      · rintro ⟨other, hother, statement', -, hother', rfl⟩
        rw [List.mem_singleton.mp hother] at hother'
        rw [hother'.body_eq hown]
        exact List.mem_singleton_self _
  rw [happly, outermost_singleton]
  exact congrArg _ (Text.braced_moved (h.isIn_of_subset hsub) hfits.body_isIn hfits.nonempty)

end Parser.Tracks

end BraceLint
