import BraceLint.Proofs.Tracking
import BraceLint.Rule.Selection
import Mathlib.Data.List.Chain
import Mathlib.Data.List.Perm.Subperm
import Mathlib.Data.List.Sublists
import Mathlib.Data.Nat.Find

/-! How many passes fixing takes. A pass puts braces around the outermost bodies that are left, so it
takes the first statement off every chain of statements in one another and every other statement
stays. Fixing ends well exactly when the chains are used up before the last pass, which has to find
nothing. -/

namespace BraceLint

/-! ### Chains of statements -/

/-- Statements of a list, each of which is in the body of the one before it. -/
structure IsChainIn (statements chain : List Unbraced) : Prop where
  subset : chain ⊆ statements
  within : chain.IsChain Unbraced.Within

/-- There is a chain of a given length. -/
def HasChain (statements : List Unbraced) (length : Nat) : Prop :=
  ∃ chain, IsChainIn statements chain ∧ chain.length = length

/-- The length of the longest chain. -/
structure IsDepth (statements : List Unbraced) (depth : Nat) : Prop where
  reached : HasChain statements depth
  bound : ∀ chain, IsChainIn statements chain → chain.length ≤ depth

section Chains

variable {text : Text} {statements chain : List Unbraced}

theorem hasChain_zero (statements : List Unbraced) : HasChain statements 0 :=
  ⟨[], ⟨List.nil_subset _, List.IsChain.nil⟩, rfl⟩

theorem not_hasChain_nil (length : Nat) : ¬HasChain [] (length + 1) := by
  rintro ⟨chain, hchain, hlength⟩
  rw [List.subset_nil.mp hchain.subset] at hlength
  cases hlength

theorem IsChainIn.take (h : IsChainIn statements chain) (count : Nat) :
    IsChainIn statements (chain.take count) :=
  ⟨fun _ hmem => h.subset (List.mem_of_mem_take hmem), h.within.take count⟩

theorem IsChainIn.tail {head : Unbraced} (h : IsChainIn statements (head :: chain)) :
    IsChainIn statements chain :=
  ⟨fun _ hmem => h.subset (List.mem_cons_of_mem _ hmem), h.within.tail⟩

/-- A statement of a chain is in the body of another one, or it is the first one. -/
theorem IsChainIn.exists_within {head : Unbraced} (h : IsChainIn statements (head :: chain))
    {statement : Unbraced} (hmem : statement ∈ chain) :
    ∃ outer ∈ statements, outer.Within statement := by
  induction chain generalizing head with
  | nil => cases hmem
  | cons next chain ih =>
      rcases List.mem_cons.mp hmem with rfl | hrest
      · exact ⟨head, h.subset List.mem_cons_self, (List.isChain_cons_cons.mp h.within).1⟩
      · exact ih h.tail hrest

/-- The statements of a chain are different, since each body starts later than the one before it. -/
theorem IsChainIn.nodup (hlaminar : Laminar text statements) (h : IsChainIn statements chain) :
    chain.Nodup := by
  have hstarts : chain.IsChain fun first second => first.body.start < second.body.start := by
    refine h.within.imp_of_mem_imp fun first second _ hsecond hwithin => ?_
    exact hwithin.body_start_lt (hlaminar.fits second (h.subset hsecond))
  have htrans : Trans (fun first second : Unbraced => first.body.start < second.body.start)
      (fun first second : Unbraced => first.body.start < second.body.start)
      (fun first second : Unbraced => first.body.start < second.body.start) := ⟨Nat.lt_trans⟩
  refine (List.isChain_iff_pairwise.mp hstarts).imp fun hlt heq => ?_
  rw [heq] at hlt
  exact Nat.lt_irrefl _ hlt

theorem IsChainIn.length_le (hlaminar : Laminar text statements) (h : IsChainIn statements chain) :
    chain.length ≤ statements.length :=
  (List.subperm_of_subset (h.nodup hlaminar) h.subset).length_le

theorem exists_isDepth (hlaminar : Laminar text statements) : ∃ depth, IsDepth statements depth := by
  classical
  refine ⟨Nat.findGreatest (HasChain statements) statements.length,
    Nat.findGreatest_spec (Nat.zero_le _) (hasChain_zero statements), fun chain hchain => ?_⟩
  exact Nat.le_findGreatest (hchain.length_le hlaminar) ⟨chain, hchain, rfl⟩

/-- Chains can be cut, so there is one of a given length exactly when the longest one is no shorter. -/
theorem IsDepth.hasChain_iff {depth count : Nat} (h : IsDepth statements depth) :
    HasChain statements count ↔ count ≤ depth := by
  constructor
  · rintro ⟨chain, hchain, rfl⟩
    exact h.bound chain hchain
  · intro hle
    obtain ⟨chain, hchain, hlength⟩ := h.reached
    refine ⟨chain.take count, hchain.take count, ?_⟩
    rw [List.length_take, hlength, Nat.min_eq_left hle]

/-- Braces around the outermost bodies take one statement off the longest chains. -/
theorem hasChain_peel_iff (hlaminar : Laminar text statements) (hne : statements ≠ []) (count : Nat) :
    HasChain (leftOver statements (outermost (statements.map Unbraced.body))) count ↔
      HasChain statements (count + 1) := by
  constructor
  · rintro ⟨chain, hchain, rfl⟩
    have hsubset : chain ⊆ statements := fun _ hmem => (mem_leftOver_iff.mp (hchain.subset hmem)).1
    cases chain with
    | nil =>
        obtain ⟨statement, hstatement⟩ := List.exists_mem_of_ne_nil statements hne
        refine ⟨[statement], ⟨?_, List.IsChain.singleton _⟩, rfl⟩
        exact List.cons_subset.mpr ⟨hstatement, List.nil_subset _⟩
    | cons head chain =>
        -- The first statement was not outermost, so it is in the body of one more.
        obtain ⟨hhead, outer, houter, hwithin⟩ :=
          hlaminar.mem_leftOver_outermost_iff.mp (hchain.subset List.mem_cons_self)
        refine ⟨outer :: head :: chain, ⟨?_, List.isChain_cons_cons.mpr ⟨hwithin, hchain.within⟩⟩, rfl⟩
        exact List.cons_subset.mpr ⟨houter, hsubset⟩
  · rintro ⟨chain, hchain, hlength⟩
    cases chain with
    | nil => cases hlength
    | cons head chain =>
        refine ⟨chain, ⟨fun statement hmem => ?_, hchain.tail.within⟩, Nat.succ.inj hlength⟩
        have hstatement := hchain.tail.subset hmem
        exact hlaminar.mem_leftOver_outermost_iff.mpr ⟨hstatement, hchain.exists_within hmem⟩

end Chains

/-! ### Passes -/

namespace Parser.Tracks

variable {parser : Parser} {specifier : Url} {text : Text} {statements : List Unbraced}
  {bodies : List Span}

/-- When no statement is left, all bodies have got their braces. -/
theorem perm_of_leftOver_eq_nil (h : parser.Tracks specifier text statements) (hnodup : bodies.Nodup)
    (hsub : bodies ⊆ statements.map Unbraced.body) (hnil : leftOver statements bodies = []) :
    bodies.Perm (statements.map Unbraced.body) := by
  rw [List.perm_ext_iff_of_nodup hnodup h.laminar.nodup_bodies]
  intro body
  refine ⟨fun hbody => hsub hbody, fun hbody => ?_⟩
  obtain ⟨statement, hstatement, rfl⟩ := List.mem_map.mp hbody
  by_contra hnot
  have hleft := mem_leftOver_iff.mpr ⟨hstatement, hnot⟩
  rw [hnil] at hleft
  cases hleft

/-- Bodies that a pass adds are new. -/
theorem nodup_next (h : parser.Tracks specifier text statements) (hnodup : bodies.Nodup) :
    (outermost ((leftOver statements bodies).map Unbraced.body) ++ bodies).Nodup := by
  have hleft : Laminar text (leftOver statements bodies) := h.laminar.sublist List.filter_sublist
  refine (nodup_outermost hleft.nodup_bodies).append hnodup fun body hbody hold => ?_
  obtain ⟨statement, hstatement, rfl⟩ := List.mem_map.mp (mem_outermost_iff.mp hbody).1
  exact (mem_leftOver_iff.mp hstatement).2 hold

theorem next_subset (hsub : bodies ⊆ statements.map Unbraced.body) :
    outermost ((leftOver statements bodies).map Unbraced.body) ++ bodies ⊆
      statements.map Unbraced.body := by
  refine List.append_subset.mpr ⟨fun body hbody => ?_, hsub⟩
  obtain ⟨statement, hstatement, rfl⟩ := List.mem_map.mp (mem_outermost_iff.mp hbody).1
  exact List.mem_map_of_mem (mem_leftOver_iff.mp hstatement).1

/-- What fixing a text with some braces comes to. The passes are used up exactly when there is a chain
of that many statements among those that are left. -/
theorem fixWithin_braced (h : parser.Tracks specifier text statements) (passes : Nat)
    (hnodup : bodies.Nodup) (hsub : bodies ⊆ statements.map Unbraced.body) :
    (HasChain (leftOver statements bodies) passes →
      fixWithin parser [Curly.fixable.toRule] specifier passes (text.braced bodies) =
        .error .unsettled) ∧
    (¬HasChain (leftOver statements bodies) passes →
      fixWithin parser [Curly.fixable.toRule] specifier passes (text.braced bodies) =
        .ok (text.braced (statements.map Unbraced.body))) := by
  induction passes generalizing bodies with
  | zero => exact ⟨fun _ => rfl, fun hnone => absurd (hasChain_zero _) hnone⟩
  | succ passes ih =>
      obtain ⟨diagnostics, hlint, hreports⟩ := h.exists_lintText hnodup hsub
      by_cases hnil : leftOver statements bodies = []
      · have hsettled : isSettled diagnostics = true :=
          (isSettled_iff hreports).mpr (List.map_eq_nil_iff.mpr hnil)
        rw [hnil, fixWithin, hlint]
        refine ⟨fun hchain => absurd hchain (not_hasChain_nil passes), fun _ => ?_⟩
        simp only [hsettled, if_true]
        rw [Text.braced_perm (h.perm_of_leftOver_eq_nil hnodup hsub hnil)]
      · have hunsettled : isSettled diagnostics = false := by
          rw [← Bool.not_eq_true, isSettled_iff hreports]
          exact fun hremaining => hnil (List.map_eq_nil_iff.mp hremaining)
        have hpass := h.applyFirstFixes_all hsub hreports
        have hleft : Laminar text (leftOver statements bodies) := h.laminar.sublist List.filter_sublist
        have hrest := ih (h.nodup_next hnodup) (next_subset hsub)
        rw [leftOver_perm List.perm_append_comm, leftOver_append, hasChain_peel_iff hleft hnil] at hrest
        rw [fixWithin, hlint]
        simp only [hunsettled, Bool.false_eq_true, if_false, hpass]
        exact hrest

end Parser.Tracks

/-! ### Programs that keep their shape -/

/-- What fixing a program asks of a parser: it reads the program as a tree that is nested in it, and
wherever bodies without braces get them, it reads the same tree with these bodies as blocks. -/
structure Parser.TakesBraces (parser : Parser) (specifier : Url) (text : Text) (tree : Tree) : Prop where
  reads : parser specifier (MediaType.ofUrl specifier) text = .ok tree
  wellNested : tree.WellNested text
  rereads : ∀ bodies : List Span, bodies.Sublist (tree.unbraced.map Unbraced.body) →
    parser specifier (MediaType.ofUrl specifier) (text.braced bodies) = .ok (tree.braced bodies)

theorem Parser.TakesBraces.tracks {parser : Parser} {specifier : Url} {text : Text} {tree : Tree}
    (h : parser.TakesBraces specifier text tree) : parser.Tracks specifier text tree.unbraced := by
  refine ⟨h.wellNested.laminar, fun bodies hnodup hsub => ?_⟩
  -- The same bodies in the order of the tree.
  let ordered := (tree.unbraced.map Unbraced.body).filter fun body => body ∈ bodies
  have hperm : bodies.Perm ordered := perm_filter_mem hnodup h.wellNested.laminar.nodup_bodies hsub
  refine ⟨tree.braced ordered, ?_, ?_⟩
  · rw [Text.braced_perm hperm]
    exact h.rereads ordered List.filter_sublist
  · rw [Tree.unbraced_braced, remaining_perm hperm]

/-- **Fixing puts braces around every body, if fifteen passes do.** With the default rules the passes
end well exactly when no more than fifteen statements are in one another, and then every reported body
has got its braces; with deeper nesting the passes are used up. -/
theorem fixText_braces_every_body {parser : Parser} {specifier : Url} {text : Text} {tree : Tree}
    (h : parser.TakesBraces specifier text tree) :
    let fixing := fixText parser (Selection.allRules.map Curly.toRule) specifier text
    let bodies := tree.unbraced.map Unbraced.body
    ∃ diagnostics depth,
      lintText parser [Curly.fixable.toRule] specifier text = .ok diagnostics ∧
      List.Forall₂ (Curly.fixable.Reports specifier text) tree.unbraced diagnostics ∧
      IsDepth tree.unbraced depth ∧
      ((∃ fixed, fixing = .ok fixed) ↔ depth ≤ 15) ∧
      (depth ≤ 15 → fixing = .ok (text.braced bodies) ∧
        (text.braced bodies).size = text.size + 3 * diagnostics.length ∧
        (text.braced bodies).withoutBraces bodies = text) ∧
      (16 ≤ depth → fixing = .error .unsettled ∧
        FixError.unsettledMessage = "Fixes did not settle after 16 passes") := by
  intro fixing bodies
  have htracks := h.tracks
  obtain ⟨diagnostics, hlint, hreports⟩ :=
    htracks.exists_lintText List.nodup_nil (List.nil_subset _)
  obtain ⟨depth, hdepth⟩ := exists_isDepth htracks.laminar
  obtain ⟨hlong, hshort⟩ :=
    htracks.fixWithin_braced maxPasses List.nodup_nil (List.nil_subset _)
  rw [Text.braced_nil, remaining_nil] at hreports
  rw [Text.braced_nil] at hlint
  rw [leftOver_nil, hdepth.hasChain_iff, Text.braced_nil] at hlong hshort
  have hok : depth ≤ 15 → fixing = .ok (text.braced bodies) := fun hle =>
    hshort (by rw [maxPasses]; omega)
  refine ⟨diagnostics, depth, hlint, hreports, hdepth, ?_, ?_, ?_⟩
  · constructor
    · rintro ⟨fixed, hfixed⟩
      by_contra hdeep
      have herror : fixing = .error .unsettled := hlong (by rw [maxPasses]; omega)
      rw [herror] at hfixed
      cases hfixed
    · exact fun hle => ⟨_, hok hle⟩
  · intro hle
    refine ⟨hok hle, ?_, Text.withoutBraces_braced _ _⟩
    rw [Text.size_braced (htracks.isIn_of_subset (List.Subset.refl _)), List.length_map,
      hreports.length_eq]
  · exact fun hdeep => ⟨hlong hdeep, by decide⟩

/-- The parser for programs takes any braces in the loop around an `if`. -/
theorem LoopAroundIf.takesBraces :
    programParser.TakesBraces SourceFile.exampleUrl LoopAroundIf.text LoopAroundIf.tree := by
  have hall : ∀ bodies ∈ (LoopAroundIf.tree.unbraced.map Unbraced.body).sublists',
      programParser SourceFile.exampleUrl (MediaType.ofUrl SourceFile.exampleUrl)
        (LoopAroundIf.text.braced bodies) = .ok (LoopAroundIf.tree.braced bodies) := by
    decide +kernel
  refine ⟨?_, by decide, fun bodies hsub => hall bodies (List.mem_sublists'.mpr hsub)⟩
  exact hall [] (List.mem_sublists'.mpr (List.nil_sublist _))

theorem loopAroundIf_fixText :
    programParser.TakesBraces SourceFile.exampleUrl LoopAroundIf.text LoopAroundIf.tree ∧
      fixText programParser (Selection.allRules.map Curly.toRule) SourceFile.exampleUrl
        LoopAroundIf.text = .ok "while (a) \x7b\nif (b) \x7b\nc();\x7d\x7d".toList := by
  obtain ⟨diagnostics, depth, -, -, hdepth, -, hok, -⟩ :=
    fixText_braces_every_body LoopAroundIf.takesBraces
  obtain ⟨chain, hchain, hlength⟩ := hdepth.reached
  have hle : depth ≤ 2 := by
    rw [← hlength]
    exact hchain.length_le LoopAroundIf.takesBraces.wellNested.laminar
  refine ⟨LoopAroundIf.takesBraces, (hok (by omega)).1.trans ?_⟩
  decide

end BraceLint
