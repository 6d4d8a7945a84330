import BraceLint.Proofs.Interleaving

/-! Files with nothing left to report. Fixing stops at a text in which nothing can be fixed, while a
report has every diagnostic, whether it can be fixed or not. With the rules that can be selected this is
the same, so a run that fixes all its files reports nothing, and neither does any later run on them. -/

namespace BraceLint.Command

/-- A run that reports nothing: no diagnostics, no summary, and success. -/
structure Outcome.IsClean (options : Options) (outcome : Outcome) : Prop where
  eq_ran : outcome = .ran options (options.rules.map Rule.code) (.ok [])
  exitCode_eq : outcome.exitCode = 0
  standardOutput_eq : outcome.standardOutput = if options.json then "[]\n" else ""
  standardError_eq : ∀ log, outcome.standardError log =
    if log then Outcome.rulesLine (options.rules.map Rule.code) else ""

theorem Outcome.isClean_ran (options : Options) :
    Outcome.IsClean options (.ran options (options.rules.map Rule.code) (.ok [])) := by
  refine ⟨rfl, rfl, ?_, fun log => ?_⟩
  · show (if options.json then _ else _) = _
    congr 1
  · show (if log then _ else _) ++ (if options.json then "" else "") ++ "" = _
    rw [ite_self, String.append_empty, String.append_empty]

theorem ordered_nil : ordered [] = [] :=
  List.mergeSort_nil

/-! ### Runs on settled files -/

/-- The file that a path leads to has a text in which nothing can be fixed. -/
def LeadsToSettled (parser : Parser) (rules : List Rule) (store : Store) (path : String) (names : Names)
    (text : Text) : Prop :=
  store.resolve path = .ok names ∧ store.contents? names = some (.text text) ∧
    Settled parser rules (Url.ofFileNames names) text

/-- How far a task on a settled file may have come: it has found nothing. -/
def Quiet (parser : Parser) (rules : List Rule) (store : Store) (path : String) (progress : Progress) :
    Prop :=
  ∃ names text, LeadsToSettled parser rules store path names text ∧
    (progress = .waiting ∨ progress = .loaded names text ∨ progress = .saved names text ∨
      progress = .finished names text [])

/-- Every path leads to a settled file. -/
def AllSettled (parser : Parser) (rules : List Rule) (store : Store) (paths : List String) : Prop :=
  ∀ path ∈ paths, ∃ names text, LeadsToSettled parser rules store path names text

section Quiet

variable {parser : Parser} {store : Store} {options : Options} {fix : Bool}

theorem prepared_of_settled {rules : List Rule} {specifier : Url} {text : Text}
    (h : Settled parser rules specifier text) : prepared parser rules fix specifier text = .ok text := by
  cases fix with
  | false => exact prepared_false_eq_ok_iff.mpr rfl
  | true => exact prepared_true_eq_ok_iff.mpr h.fixText_eq

theorem Quiet.moves {path : String} {progress reached : Progress} {after : Shared}
    (h : Quiet parser options.rules store path progress)
    (hmoves : Moves parser options.rules fix { store := store } path progress after reached) :
    after = { store := store } ∧ Quiet parser options.rules store path reached := by
  obtain ⟨names, text, hleads, hprogress⟩ := h
  have hload := loaded_eq_ok_iff.mpr ⟨hleads.1, hleads.2.1⟩
  have hprepared : prepared parser options.rules fix (Url.ofFileNames names) text = .ok text :=
    prepared_of_settled hleads.2.2
  have hlint : linted parser options.rules (Url.ofFileNames names) text = .ok [] :=
    mapError_eq_ok_iff.mpr hleads.2.2.lintText_eq
  rcases hprogress with rfl | rfl | rfl | rfl
  · cases hmoves with
    | load hload' =>
        cases hload.symm.trans hload'
        exact ⟨rfl, names, text, hleads, Or.inr (Or.inl rfl)⟩
    | loadFails hfails => cases hload.symm.trans hfails
    | rest => exact ⟨rfl, names, text, hleads, Or.inl rfl⟩
  · cases hmoves with
    | keep => exact ⟨rfl, names, text, hleads, Or.inr (Or.inr (Or.inl rfl))⟩
    | write hfixed hchanged => exact absurd (Except.ok.inj (hfixed.symm.trans hprepared)) hchanged
    | fixFails hfails => cases hprepared.symm.trans hfails
    | writeFails hfixed hchanged => exact absurd (Except.ok.inj (hfixed.symm.trans hprepared)) hchanged
    | rest => exact ⟨rfl, names, text, hleads, Or.inr (Or.inl rfl)⟩
  · cases hmoves with
    | lint hfound =>
        cases hlint.symm.trans hfound
        exact ⟨rfl, names, text, hleads, Or.inr (Or.inr (Or.inr rfl))⟩
    | lintFails hfails => cases hlint.symm.trans hfails
    | rest => exact ⟨rfl, names, text, hleads, Or.inr (Or.inr (Or.inl rfl))⟩
  · cases hmoves
    exact ⟨rfl, names, text, hleads, Or.inr (Or.inr (Or.inr rfl))⟩

/-- On settled files, tasks change nothing that they share and stay quiet. -/
def Board.Quiet (parser : Parser) (rules : List Rule) (store : Store) (board : Board) : Prop :=
  board.toShared = { store := store } ∧
    ∀ task ∈ board.tasks, Command.Quiet parser rules store task.path task.progress

theorem Board.Quiet.step {board : Board} (h : board.Quiet parser options.rules store) (index : Nat) :
    (board.step parser options.rules fix index).Quiet parser options.rules store := by
  obtain ⟨hshared, htasks⟩ := h
  rcases board.step_cases parser options.rules fix index with
    hsame | ⟨before, task, rest, after, reached, hlist, hmoves, hstep⟩
  · rw [hsame]
    exact ⟨hshared, htasks⟩
  · rw [hshared] at hmoves
    rw [hlist] at htasks
    obtain ⟨hafter, hreached⟩ :=
      (htasks task (List.mem_append_right _ List.mem_cons_self)).moves hmoves
    rw [hstep]
    exact ⟨hafter, forall_mem_replaced htasks hreached⟩

theorem Board.quiet_run {paths : List String} (h : AllSettled parser options.rules store paths)
    (schedule : List Nat) :
    ((Board.start store paths).run parser options.rules fix schedule).Quiet parser options.rules
      store := by
  refine run_induction ⟨rfl, fun task htask => ?_⟩ (fun _ index hquiet => hquiet.step index) schedule
  obtain ⟨path, hpath, rfl⟩ := List.mem_map.mp htask
  obtain ⟨names, text, hleads⟩ := h path hpath
  exact ⟨names, text, hleads, Or.inl rfl⟩

end Quiet

/-- Every run reports nothing and leaves the files as they are. -/
def RunsClean (parser : Parser) (store : Store) (options : Options) : Prop :=
  (∀ board outcome, MayEnd parser store options board outcome →
    outcome.IsClean options ∧ board.written = [] ∧ board.store = store) ∧
  ∀ arguments, Request.ofArguments arguments = .lint options →
    (run parser store arguments).2.IsClean options ∧ (run parser store arguments).1 = store

theorem AllSettled.runsClean {parser : Parser} {store : Store} {options : Options}
    (h : AllSettled parser options.rules store options.files) : RunsClean parser store options := by
  have hends : ∀ board outcome, MayEnd parser store options board outcome →
      outcome.IsClean options ∧ board.written = [] ∧ board.store = store := by
    rintro board outcome ⟨schedule, result, hboard, hresult, rfl⟩
    obtain ⟨hshared, htasks⟩ : board.Quiet parser options.rules store :=
      hboard ▸ Board.quiet_run h schedule
    refine ⟨?_, congrArg Shared.written hshared, congrArg Shared.store hshared⟩
    cases result with
    | error failure =>
        obtain ⟨task, htask, hfailed⟩ := hresult
        obtain ⟨names, text, -, hprogress⟩ := htasks task htask
        rw [hfailed] at hprogress
        rcases hprogress with h | h | h | h <;> cases h
    | ok entries =>
        obtain ⟨-, rfl⟩ := hresult
        have hnone : board.entries = [] := congrArg Shared.entries hshared
        show Outcome.IsClean options (.ran options _ (.ok (ordered board.entries)))
        rw [hnone, ordered_nil]
        exact Outcome.isClean_ran options
  refine ⟨hends, fun arguments hrequest => ?_⟩
  obtain ⟨board, hmay, hboard⟩ := run_mayEnd parser store hrequest
  obtain ⟨hclean, -, hstore⟩ := hends board _ hmay
  exact ⟨hclean, hboard.symm.trans hstore⟩

/-! ### Runs that fix all files -/

section Fixed

variable {parser : Parser} {store : Store} {options : Options} {board : Board} {outcome : Outcome}

theorem Prepares.exists_runTask_eq_ok {names : Names} {final : Text} {path : String}
    (h : Prepares parser options.rules true store names final) (hresolve : store.resolve path = .ok names) :
    ∃ result, runTask parser options.rules true store path = .ok result := by
  obtain ⟨original, -, hfixed⟩ := h.exists_fixText_eq
  have hlint : linted parser options.rules (Url.ofFileNames names) final = .ok [] :=
    mapError_eq_ok_iff.mpr (settled_of_fixText hfixed).lintText_eq
  obtain ⟨after, htask⟩ := h.exists_runTask_eq hresolve
  rw [hlint] at htask
  exact ⟨_, htask⟩

/-- If all files can be fixed, a run that fixes them reports nothing and leaves them settled. -/
theorem MayEnd.isClean_and_allSettled (hends : MayEnd parser store options board outcome)
    (hfix : options.fix = true)
    (hfiles : ∀ path ∈ options.files, ∃ names final, store.resolve path = .ok names ∧
      Prepares parser options.rules true store names final) :
    outcome.IsClean options ∧ AllSettled parser options.rules board.store options.files := by
  obtain ⟨hsound, hpaths, hfinished, rfl⟩ := hends.isFinished fun path hpath => by
    obtain ⟨names, final, hresolve, hprepares⟩ := hfiles path hpath
    rw [hfix]
    exact hprepares.exists_runTask_eq_ok hresolve
  rw [hfix] at hsound
  have hsettled : ∀ task ∈ board.tasks, task.entries = [] ∧ ∃ names text,
      LeadsToSettled parser options.rules board.store task.path names text := by
    intro task htask
    obtain ⟨names, final, found, hprogress, hresolve, hprepares, hcontents, hlint⟩ :=
      hsound.of_isFinished hfinished htask
    obtain ⟨original, -, hfixed⟩ := hprepares.exists_fixText_eq
    have hdone := settled_of_fixText hfixed
    cases hdone.lintText_eq.symm.trans hlint
    refine ⟨?_, names, final, ?_, hcontents, hdone⟩
    · rw [Task.entries, hprogress]
      rfl
    · rw [hsound.shared.resolve, hresolve]
  have hnone : board.entries = [] := by
    have hflat : board.tasks.flatMap Task.entries = [] :=
      List.flatMap_eq_nil_iff.mpr fun task htask => (hsettled task htask).1
    exact List.perm_nil.mp (hflat ▸ hsound.entries)
  refine ⟨?_, fun path hpath => ?_⟩
  · rw [hnone, ordered_nil]
    exact Outcome.isClean_ran options
  · obtain ⟨task, htask, rfl⟩ := List.mem_map.mp (hpaths ▸ hpath)
    exact (hsettled task htask).2

end Fixed

/-- **A run that fixes all its files leaves nothing to report.** If every path leads to a file that can be
read, fixed and, should fixing change it, written, then every run with these options that fixes reports
nothing, however its tasks take turns. Neither does any run after it on these files with the same
choice of rules, with fixing or without, and it writes nothing. -/
theorem clean_after_fixing (parser : Parser) (store : Store) (options : Options) (hfix : options.fix = true)
    (hfiles : ∀ path ∈ options.files, ∃ names text fixed, store.resolve path = .ok names ∧
      store.contents? names = some (.text text) ∧
      fixText parser options.rules (Url.ofFileNames names) text = .ok fixed ∧
      (fixed ≠ text → store.locked names = none)) :
    (∀ board outcome, MayEnd parser store options board outcome →
      outcome.IsClean options ∧
      ∀ again : Options, again.selection = options.selection → again.files ⊆ options.files →
        RunsClean parser board.store again) ∧
    ∀ arguments, Request.ofArguments arguments = .lint options →
      (run parser store arguments).2.IsClean options ∧
      ∀ again : Options, again.selection = options.selection → again.files ⊆ options.files →
        RunsClean parser (run parser store arguments).1 again := by
  have hprepares : ∀ path ∈ options.files, ∃ names final, store.resolve path = .ok names ∧
      Prepares parser options.rules true store names final := by
    intro path hpath
    obtain ⟨names, text, fixed, hresolve, hcontents, hfixed, hfree⟩ := hfiles path hpath
    exact ⟨names, fixed, hresolve, text, hcontents, prepared_true_eq_ok_iff.mpr hfixed, hfree⟩
  have hends : ∀ board outcome, MayEnd parser store options board outcome →
      outcome.IsClean options ∧
      ∀ again : Options, again.selection = options.selection → again.files ⊆ options.files →
        RunsClean parser board.store again := by
    intro board outcome hmay
    obtain ⟨hclean, hsettled⟩ := hmay.isClean_and_allSettled hfix hprepares
    refine ⟨hclean, fun again hselection hsubset => ?_⟩
    have hrules : again.rules = options.rules := by rw [Options.rules, hselection, Options.rules]
    have hagain : AllSettled parser again.rules board.store again.files := by
      rw [hrules]
      exact fun path hpath => hsettled path (hsubset hpath)
    exact hagain.runsClean
  refine ⟨hends, fun arguments hrequest => ?_⟩
  obtain ⟨board, hmay, hboard⟩ := run_mayEnd parser store hrequest
  rw [← hboard]
  exact hends board _ hmay

theorem twoPaths_clean_after_fixing :
    let fixing := TwoPaths.options ["a.ts", "./a.ts"] true
    let ended := run programParser TwoPaths.store ["--fix", "a.ts", "./a.ts"]
    ended.2.IsClean fixing ∧
      RunsClean programParser ended.1 (TwoPaths.options ["./a.ts"] false) ∧
      RunsClean programParser ended.1 fixing := by
  intro fixing ended
  obtain ⟨-, hrun⟩ := clean_after_fixing programParser TwoPaths.store fixing rfl fun path hpath => by
    have hresolve : TwoPaths.store.resolve path = .ok TwoPaths.names :=
      if_pos (by simpa [fixing, TwoPaths.options] using hpath)
    exact ⟨TwoPaths.names, TwoPaths.text, TwoPaths.fixed, hresolve, rfl, TwoPaths.fixText_eq, fun _ => rfl⟩
  obtain ⟨hclean, hagain⟩ := hrun ["--fix", "a.ts", "./a.ts"] (by decide +kernel)
  exact ⟨hclean, hagain _ rfl (by simp [fixing, TwoPaths.options]), hagain _ rfl (List.Subset.refl _)⟩

end BraceLint.Command
