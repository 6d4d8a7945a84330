import BraceLint.Proofs.Settling
import BraceLint.Proofs.Tasks

/-! What files hold while tasks take turns. Several tasks may work on one file, and one of them may
read what another one has written. This does no harm because fixing a fixed text gives it back: at any
time a file holds the text it had at the start or what fixing makes of that text, and every task ends
as it would have ended alone. -/

namespace BraceLint.Command

/-! ### Texts that are ready -/

section Prepared

variable {parser : Parser} {rules : List Rule} {fix : Bool} {specifier : Url} {text final : Text}

theorem prepared_true_eq_ok_iff :
    prepared parser rules true specifier text = .ok final ↔
      fixText parser rules specifier text = .ok final := by
  rw [prepared, if_pos rfl, mapError_eq_ok_iff]

theorem prepared_false_eq_ok_iff : prepared parser rules false specifier text = .ok final ↔ text = final := by
  rw [prepared, if_neg Bool.false_ne_true, Except.ok.injEq]

theorem prepared_of_prepared (h : prepared parser rules fix specifier text = .ok final) :
    prepared parser rules fix specifier final = .ok final := by
  cases fix with
  | false => exact prepared_false_eq_ok_iff.mpr rfl
  | true => exact prepared_true_eq_ok_iff.mpr (fixText_of_fixText (prepared_true_eq_ok_iff.mp h))

end Prepared

/-! ### What holds at any time -/

section Soundness

variable (parser : Parser) (rules : List Rule) (fix : Bool) (origin : Store)

/-- What becomes of a file: its text is made ready, and if this gives another text, it can be
written. -/
def Prepares (names : Names) (final : Text) : Prop :=
  ∃ original, origin.contents? names = some (.text original) ∧
    prepared parser rules fix (Url.ofFileNames names) original = .ok final ∧
    (final ≠ original → origin.locked names = none)

/-- The files at some time of a run, and those that have been written by then. -/
structure Shared.Sound (shared : Shared) : Prop where
  resolve : shared.store.resolve = origin.resolve
  locked : shared.store.locked = origin.locked
  /-- A file holds what it did or what becomes of it. -/
  files : ∀ names, shared.store.contents? names = origin.contents? names ∨
    ∃ final, Prepares parser rules fix origin names final ∧
      shared.store.contents? names = some (.text final)
  /-- Only files that become different are written. -/
  written : ∀ names ∈ shared.written, ∃ original final, origin.contents? names = some (.text original) ∧
    prepared parser rules fix (Url.ofFileNames names) original = .ok final ∧ final ≠ original
  unwritten : ∀ names, names ∉ shared.written → shared.store.contents? names = origin.contents? names
  untouched : shared.written = [] → shared.store = origin

/-- What is known of a task on its way, given the files as they are. -/
def Task.Sound (store : Store) (task : Task) : Prop :=
  match task.progress with
  | .waiting => True
  | .loaded names text =>
    origin.resolve task.path = .ok names ∧
      (origin.contents? names = some (.text text) ∨
        Prepares parser rules fix origin names text ∧ store.contents? names = some (.text text))
  | .saved names final =>
    origin.resolve task.path = .ok names ∧ Prepares parser rules fix origin names final ∧
      store.contents? names = some (.text final)
  | .finished names final found =>
    origin.resolve task.path = .ok names ∧ Prepares parser rules fix origin names final ∧
      store.contents? names = some (.text final) ∧
      lintText parser rules (Url.ofFileNames names) final = .ok found
  | .failed failure => ∃ store, runTask parser rules fix origin task.path = .error (store, failure)

/-- What holds of a board at any time of a run that starts with the given files. -/
structure Board.Sound (board : Board) : Prop where
  shared : board.toShared.Sound parser rules fix origin
  tasks : ∀ task ∈ board.tasks, task.Sound parser rules fix origin board.store
  entries : board.entries.Perm (board.tasks.flatMap Task.entries)

variable {parser rules fix origin} {names : Names} {path : String}

theorem Prepares.unique {final other : Text} (h : Prepares parser rules fix origin names final)
    (h' : Prepares parser rules fix origin names other) : final = other := by
  obtain ⟨original, horiginal, hprepared, -⟩ := h
  obtain ⟨original', horiginal', hprepared', -⟩ := h'
  cases horiginal.symm.trans horiginal'
  exact Except.ok.inj (hprepared.symm.trans hprepared')

theorem Prepares.prepared_eq {final : Text} (h : Prepares parser rules fix origin names final) :
    prepared parser rules fix (Url.ofFileNames names) final = .ok final := by
  obtain ⟨original, -, hprepared, -⟩ := h
  exact prepared_of_prepared hprepared

/-! ### Tasks alone -/

theorem loaded_eq_ok_iff {store : Store} {text : Text} :
    loaded store path = .ok (names, text) ↔
      store.resolve path = .ok names ∧ store.contents? names = some (.text text) := by
  constructor
  · intro h
    obtain ⟨place, hresolve, h⟩ := bind_eq_ok_iff.mp h
    obtain ⟨found, hread, h⟩ := bind_eq_ok_iff.mp h
    cases h
    exact ⟨mapError_eq_ok_iff.mp hresolve, Store.read_eq_ok_iff.mp (mapError_eq_ok_iff.mp hread)⟩
  · rintro ⟨hresolve, hcontents⟩
    refine bind_eq_ok_iff.mpr ⟨names, mapError_eq_ok_iff.mpr hresolve, bind_eq_ok_iff.mpr ⟨text, ?_, rfl⟩⟩
    exact mapError_eq_ok_iff.mpr (Store.read_eq_ok_iff.mpr hcontents)

/-- The task of a path alone gets as far as linting what becomes of its file. -/
theorem Prepares.exists_runTask_eq {final : Text} (h : Prepares parser rules fix origin names final)
    (hresolve : origin.resolve path = .ok names) :
    ∃ store, runTask parser rules fix origin path =
      match linted parser rules (Url.ofFileNames names) final with
      | .error failure => .error (store, failure)
      | .ok found => .ok ⟨store, entriesOf final found⟩ := by
  obtain ⟨original, hcontents, hprepared, hfree⟩ := h
  have hload := loaded_eq_ok_iff.mpr ⟨hresolve, hcontents⟩
  have hwrite : ∃ store, writeIfChanged origin path names original final = .ok store := by
    by_cases hsame : final = original
    · exact ⟨origin, if_pos hsame⟩
    · refine ⟨origin.replace names final, ?_⟩
      rw [writeIfChanged, if_neg hsame, Store.write, hfree hsame]
      rfl
  obtain ⟨store, hstore⟩ := hwrite
  refine ⟨store, ?_⟩
  cases hlint : linted parser rules (Url.ofFileNames names) final with
  | error failure => simp only [runTask_eq, hload, hprepared, hstore, hlint]
  | ok found => simp only [runTask_eq, hload, hprepared, hstore, hlint]

/-- Reading fails during a run only where it fails at the start. -/
theorem Shared.Sound.loaded_eq {shared : Shared} (h : shared.Sound parser rules fix origin)
    {failure : Failure} (hload : loaded shared.store path = .error failure) :
    loaded origin path = .error failure := by
  rw [← hload]
  unfold loaded
  rw [h.resolve]
  cases hresolve : origin.resolve path with
  | error fault => rfl
  | ok names =>
      rcases h.files names with hsame | ⟨final, -, hfinal⟩
      · simp only [bind, Except.bind, Except.mapError, Store.read, hsame]
      · rw [loaded_eq_ok_iff.mpr ⟨h.resolve ▸ hresolve, hfinal⟩] at hload
        cases hload

theorem Shared.Sound.contents?_replace_eq {shared : Shared} (h : shared.Sound parser rules fix origin)
    {original : Text} (horiginal : origin.contents? names = some (.text original)) (final : Text) :
    (shared.store.replace names final).contents? names = some (.text final) := by
  rw [Store.contents?_replace, if_pos rfl]
  rcases h.files names with hsame | ⟨_, -, hcontents⟩
  · rw [hsame, horiginal]
    rfl
  · rw [hcontents]
    rfl

/-! ### What a step keeps -/

section Moves

variable {shared after : Shared} {progress reached : Progress}

/-- What a task has read is the text at the start, unless it is ready already. -/
theorem Task.Sound.original_of_changed {store : Store} {text : Text}
    (h : Task.Sound parser rules fix origin store ⟨path, .loaded names text⟩)
    (hchanged : prepared parser rules fix (Url.ofFileNames names) text ≠ .ok text) :
    origin.resolve path = .ok names ∧ origin.contents? names = some (.text text) := by
  obtain ⟨hresolve, horiginal | ⟨hprepares, -⟩⟩ := h
  · exact ⟨hresolve, horiginal⟩
  · exact absurd hprepares.prepared_eq hchanged

theorem Task.Sound.prepares_of_changed {store : Store} {text final : Text}
    (h : Task.Sound parser rules fix origin store ⟨path, .loaded names text⟩)
    (hprepared : prepared parser rules fix (Url.ofFileNames names) text = .ok final)
    (hchanged : final ≠ text) (hfree : origin.locked names = none) :
    origin.contents? names = some (.text text) ∧ Prepares parser rules fix origin names final := by
  obtain ⟨-, horiginal⟩ := h.original_of_changed (by
    rw [hprepared]
    exact fun heq => hchanged (Except.ok.inj heq))
  exact ⟨horiginal, text, horiginal, hprepared, fun _ => hfree⟩

/-- A file that holds what becomes of it keeps it: whoever writes it writes the same. -/
theorem Moves.contents_eq (hshared : shared.Sound parser rules fix origin)
    (htask : Task.Sound parser rules fix origin shared.store ⟨path, progress⟩)
    (hmoves : Moves parser rules fix shared path progress after reached)
    (other : Names) (final : Text) (hprepares : Prepares parser rules fix origin other final)
    (hcontents : shared.store.contents? other = some (.text final)) :
    after.store.contents? other = some (.text final) := by
  cases hmoves with
  | @write names _ text hprepared hchanged hfree =>
      have hnew := (htask.prepares_of_changed hprepared hchanged (hshared.locked ▸ hfree)).2
      by_cases hnames : other = names
      · subst hnames
        rw [hprepares.unique hnew, Store.contents?_replace, if_pos rfl, hcontents]
        rfl
      · rw [Store.contents?_replace, if_neg hnames, hcontents]
  | _ => exact hcontents

theorem Shared.Sound.moves (hshared : shared.Sound parser rules fix origin)
    (htask : Task.Sound parser rules fix origin shared.store ⟨path, progress⟩)
    (hmoves : Moves parser rules fix shared path progress after reached) :
    after.Sound parser rules fix origin := by
  cases hmoves with
  | @write names text final hprepared hchanged hfree =>
      obtain ⟨horiginal, hprepares⟩ :=
        htask.prepares_of_changed hprepared hchanged (hshared.locked ▸ hfree)
      refine ⟨hshared.resolve, hshared.locked, fun other => ?_, ?_, ?_, nofun⟩
      · by_cases hnames : other = names
        · subst hnames
          exact Or.inr ⟨final, hprepares, hshared.contents?_replace_eq horiginal final⟩
        · rw [Store.contents?_replace, if_neg hnames]
          exact hshared.files other
      · intro other hother
        rcases List.mem_cons.mp hother with rfl | hearlier
        · exact ⟨text, final, horiginal, hprepared, hchanged⟩
        · exact hshared.written other hearlier
      · intro other hother
        rw [List.mem_cons, not_or] at hother
        rw [Store.contents?_replace, if_neg hother.1]
        exact hshared.unwritten other hother.2
  | lint hlint =>
      exact ⟨hshared.resolve, hshared.locked, hshared.files, hshared.written, hshared.unwritten,
        hshared.untouched⟩
  | _ => exact hshared

theorem Task.Sound.moves (hshared : shared.Sound parser rules fix origin)
    (htask : Task.Sound parser rules fix origin shared.store ⟨path, progress⟩)
    (hmoves : Moves parser rules fix shared path progress after reached) :
    Task.Sound parser rules fix origin after.store ⟨path, reached⟩ := by
  cases hmoves with
  | load hload =>
      obtain ⟨hresolve, hcontents⟩ := loaded_eq_ok_iff.mp hload
      refine ⟨hshared.resolve ▸ hresolve, ?_⟩
      rcases hshared.files _ with hsame | ⟨final, hprepares, hfinal⟩
      · exact Or.inl (hsame ▸ hcontents)
      · cases hfinal.symm.trans hcontents
        exact Or.inr ⟨hprepares, hcontents⟩
  | keep hprepared =>
      obtain ⟨hresolve, horiginal | ⟨hprepares, hcontents⟩⟩ := htask
      · have hprepares : Prepares parser rules fix origin _ _ :=
          ⟨_, horiginal, hprepared, fun hne => absurd rfl hne⟩
        refine ⟨hresolve, hprepares, ?_⟩
        rcases hshared.files _ with hsame | ⟨final, hother, hfinal⟩
        · exact hsame.trans horiginal
        · rwa [hother.unique hprepares] at hfinal
      · exact ⟨hresolve, hprepares, hcontents⟩
  | write hprepared hchanged hfree =>
      obtain ⟨horiginal, hprepares⟩ :=
        htask.prepares_of_changed hprepared hchanged (hshared.locked ▸ hfree)
      exact ⟨htask.1, hprepares, hshared.contents?_replace_eq horiginal _⟩
  | lint hlint =>
      obtain ⟨hresolve, hprepares, hcontents⟩ := htask
      exact ⟨hresolve, hprepares, hcontents, mapError_eq_ok_iff.mp hlint⟩
  | loadFails hload =>
      refine ⟨origin, ?_⟩
      simp only [runTask_eq, hshared.loaded_eq hload]
  | fixFails hprepared =>
      obtain ⟨hresolve, horiginal⟩ := htask.original_of_changed (by rw [hprepared]; nofun)
      refine ⟨origin, ?_⟩
      simp only [runTask_eq, loaded_eq_ok_iff.mpr ⟨hresolve, horiginal⟩, hprepared]
  | writeFails hprepared hchanged hlocked =>
      obtain ⟨hresolve, horiginal⟩ := htask.original_of_changed (by
        rw [hprepared]
        exact fun heq => hchanged (Except.ok.inj heq))
      rw [hshared.locked] at hlocked
      refine ⟨origin, ?_⟩
      simp only [runTask_eq, loaded_eq_ok_iff.mpr ⟨hresolve, horiginal⟩, hprepared, writeIfChanged,
        if_neg hchanged, Store.write, hlocked, Except.mapError]
  | lintFails hlint =>
      obtain ⟨hresolve, hprepares, -⟩ := htask
      obtain ⟨store, htask⟩ := hprepares.exists_runTask_eq hresolve
      refine ⟨store, ?_⟩
      rw [htask, hlint]
  | rest => exact htask

theorem Moves.entries_perm (hmoves : Moves parser rules fix shared path progress after reached) :
    (after.entries ++ Task.entries ⟨path, progress⟩).Perm
      (shared.entries ++ Task.entries ⟨path, reached⟩) := by
  cases hmoves with
  | lint hlint => exact (List.append_nil _).symm ▸ List.Perm.refl _
  | _ => exact List.Perm.refl _

end Moves

theorem Task.Sound.mono {store after : Store} {task : Task}
    (h : task.Sound parser rules fix origin store)
    (hkept : ∀ names final, Prepares parser rules fix origin names final →
      store.contents? names = some (.text final) → after.contents? names = some (.text final)) :
    task.Sound parser rules fix origin after := by
  obtain ⟨path, progress⟩ := task
  cases progress with
  | loaded names text =>
      exact ⟨h.1, h.2.imp_right fun ⟨hprepares, hcontents⟩ => ⟨hprepares, hkept _ _ hprepares hcontents⟩⟩
  | saved names final => exact ⟨h.1, h.2.1, hkept _ _ h.2.1 h.2.2⟩
  | finished names final found => exact ⟨h.1, h.2.1, hkept _ _ h.2.1 h.2.2.1, h.2.2.2⟩
  | waiting => trivial
  | failed failure => exact h

theorem Board.Sound.step {board : Board} (h : board.Sound parser rules fix origin) (index : Nat) :
    (board.step parser rules fix index).Sound parser rules fix origin := by
  rcases board.step_cases parser rules fix index with
    hsame | ⟨before, task, rest, after, reached, htasks, hmoves, hstep⟩
  · rw [hsame]
    exact h
  · have htask := h.tasks task (htasks ▸ List.mem_append_right _ List.mem_cons_self)
    have hkept := hmoves.contents_eq h.shared htask
    rw [hstep]
    refine ⟨h.shared.moves htask hmoves, ?_, ?_⟩
    · have hothers : ∀ other ∈ before ++ task :: rest,
          other.Sound parser rules fix origin after.store := fun other hother =>
        (h.tasks other (htasks ▸ hother)).mono hkept
      exact forall_mem_replaced hothers (htask.moves h.shared hmoves)
    · -- What the task had added before the step stands on both sides and cancels.
      have hentries := h.entries
      rw [htasks, List.flatMap_append, List.flatMap_cons] at hentries
      rw [List.flatMap_append, List.flatMap_cons, ← List.perm_append_right_iff task.entries]
      refine hmoves.entries_perm.trans ((hentries.append_right _).trans ?_)
      simp only [List.append_assoc, List.perm_append_left_iff]
      refine List.perm_append_comm.trans ((List.perm_append_comm.append_right _).trans ?_)
      rw [List.append_assoc]

theorem Board.sound_start (paths : List String) :
    (Board.start origin paths).Sound parser rules fix origin := by
  refine ⟨⟨rfl, rfl, fun _ => Or.inl rfl, fun _ hmem => absurd hmem List.not_mem_nil, fun _ _ => rfl,
    fun _ => rfl⟩, ?_, ?_⟩
  · intro task htask
    obtain ⟨path, -, rfl⟩ := List.mem_map.mp htask
    trivial
  · have hnone : (Board.start origin paths).tasks.flatMap Task.entries = [] := by
      simp [Board.start, List.flatMap_map, Task.entries]
    rw [hnone]
    exact List.Perm.refl _

theorem Board.sound_run (paths : List String) (schedule : List Nat) :
    ((Board.start origin paths).run parser rules fix schedule).Sound parser rules fix origin :=
  run_induction (sound_start paths) (fun _ index h => h.step index) schedule

end Soundness

/-! ### Tasks that are through -/

theorem Progress.isFinished_iff {progress : Progress} :
    progress.isFinished = true ↔ ∃ names final found, progress = .finished names final found := by
  cases progress <;> simp [isFinished]

theorem Board.Sound.of_isFinished {parser : Parser} {rules : List Rule} {fix : Bool} {origin : Store}
    {board : Board} (h : board.Sound parser rules fix origin) (hfinished : board.isFinished = true)
    {task : Task} (htask : task ∈ board.tasks) :
    ∃ names final found, task.progress = .finished names final found ∧
      origin.resolve task.path = .ok names ∧ Prepares parser rules fix origin names final ∧
      board.store.contents? names = some (.text final) ∧
      lintText parser rules (Url.ofFileNames names) final = .ok found := by
  obtain ⟨names, final, found, hprogress⟩ :=
    Progress.isFinished_iff.mp (List.all_eq_true.mp hfinished task htask)
  have hknown := h.tasks task htask
  rw [Task.Sound, hprogress] at hknown
  exact ⟨names, final, found, hprogress, hknown⟩

/-- Where the tasks of all paths succeed alone, they do so however they take turns. -/
theorem MayEnd.isFinished {parser : Parser} {store : Store} {options : Options} {board : Board}
    {outcome : Outcome} (hends : MayEnd parser store options board outcome)
    (hnone : ∀ path ∈ options.files, ∃ result,
      runTask parser options.rules options.fix store path = .ok result) :
    board.Sound parser options.rules options.fix store ∧
      board.tasks.map Task.path = options.files ∧ board.isFinished = true ∧
      outcome = .ran options (options.rules.map Rule.code) (.ok (ordered board.entries)) := by
  obtain ⟨schedule, result, hboard, hresult, rfl⟩ := hends
  have hsound : board.Sound parser options.rules options.fix store := hboard ▸ Board.sound_run _ _
  have hpaths : board.tasks.map Task.path = options.files :=
    hboard ▸ Board.paths_run parser options.rules options.fix store options.files schedule
  cases result with
  | error failure =>
      obtain ⟨task, htask, hprogress⟩ := hresult
      have hfailed := hsound.tasks task htask
      rw [Task.Sound, hprogress] at hfailed
      obtain ⟨_, hfails⟩ := hfailed
      obtain ⟨result, hsucceeds⟩ := hnone task.path (hpaths ▸ List.mem_map_of_mem htask)
      cases hfails.symm.trans hsucceeds
  | ok entries =>
      obtain ⟨hfinished, rfl⟩ := hresult
      exact ⟨hsound, hpaths, hfinished, rfl⟩

/-! ### Files during a run -/

/-- Unless files are to be fixed, nothing is written. -/
theorem Shared.Sound.untouched_of_false {parser : Parser} {rules : List Rule} {origin : Store}
    {shared : Shared} (h : shared.Sound parser rules false origin) :
    shared.written = [] ∧ shared.store = origin := by
  have hnone : shared.written = [] := by
    refine List.eq_nil_iff_forall_not_mem.mpr fun names hmem => ?_
    obtain ⟨original, final, -, hprepared, hchanged⟩ := h.written names hmem
    exact hchanged (prepared_false_eq_ok_iff.mp hprepared).symm
  exact ⟨hnone, h.untouched hnone⟩

theorem Prepares.exists_fixText_eq {parser : Parser} {rules : List Rule} {origin : Store} {names : Names}
    {final : Text} (h : Prepares parser rules true origin names final) :
    ∃ original, origin.contents? names = some (.text original) ∧
      fixText parser rules (Url.ofFileNames names) original = .ok final := by
  obtain ⟨original, horiginal, hprepared, -⟩ := h
  exact ⟨original, horiginal, prepared_true_eq_ok_iff.mp hprepared⟩

/-- **Files hold the text they had or what fixing makes of it.** Whatever turns the tasks of a run take,
a file holds one of these two texts at any time, only files that fixing changes are written, and when
all tasks are through, every file that was named holds the fixed text and every task has linted it.
Nothing is written unless files are to be fixed. -/
theorem files_while_interleaved (parser : Parser) (rules : List Rule) (fix : Bool) (store : Store)
    (paths : List String) (schedule : List Nat) :
    let board := (Board.start store paths).run parser rules fix schedule
    let fixing := fun names => fixText parser rules (Url.ofFileNames names)
    (∀ names, board.store.contents? names = store.contents? names ∨
      ∃ original fixed, store.contents? names = some (.text original) ∧
        fixing names original = .ok fixed ∧ board.store.contents? names = some (.text fixed)) ∧
    (∀ names ∈ board.written, ∃ original fixed, store.contents? names = some (.text original) ∧
      fixing names original = .ok fixed ∧ fixed ≠ original) ∧
    (∀ names ∉ board.written, board.store.contents? names = store.contents? names) ∧
    (∀ names original error, store.contents? names = some (.text original) →
      fixing names original = .error error →
        names ∉ board.written ∧ board.store.contents? names = some (.text original)) ∧
    (fix = true → board.isFinished = true → board.tasks.map Task.path = paths ∧
      board.entries.Perm (board.tasks.flatMap Task.entries) ∧
      ∀ task ∈ board.tasks, ∃ names original fixed found,
        store.resolve task.path = .ok names ∧ store.contents? names = some (.text original) ∧
        fixing names original = .ok fixed ∧ board.store.contents? names = some (.text fixed) ∧
        task.progress = .finished names fixed found ∧
        lintText parser rules (Url.ofFileNames names) fixed = .ok found) ∧
    (fix = false → board.written = [] ∧ board.store = store) := by
  intro board fixing
  have hsound : board.Sound parser rules fix store := Board.sound_run paths schedule
  have hfiles : ∀ names, board.store.contents? names = store.contents? names ∨
      ∃ original fixed, store.contents? names = some (.text original) ∧
        fixing names original = .ok fixed ∧ board.store.contents? names = some (.text fixed) := by
    intro names
    cases fix with
    | false => exact Or.inl (by rw [hsound.shared.untouched_of_false.2])
    | true =>
        refine (hsound.shared.files names).imp_right fun ⟨final, hprepares, hfinal⟩ => ?_
        obtain ⟨original, horiginal, hfixed⟩ := hprepares.exists_fixText_eq
        exact ⟨original, final, horiginal, hfixed, hfinal⟩
  have hwritten : ∀ names ∈ board.written, ∃ original fixed,
      store.contents? names = some (.text original) ∧ fixing names original = .ok fixed ∧
        fixed ≠ original := by
    intro names hmem
    cases fix with
    | false =>
        rw [hsound.shared.untouched_of_false.1] at hmem
        cases hmem
    | true =>
        obtain ⟨original, final, horiginal, hprepared, hchanged⟩ := hsound.shared.written names hmem
        exact ⟨original, final, horiginal, prepared_true_eq_ok_iff.mp hprepared, hchanged⟩
  refine ⟨hfiles, hwritten, hsound.shared.unwritten, ?_, ?_, ?_⟩
  · intro names original error horiginal herror
    have hnot : names ∉ board.written := by
      intro hmem
      obtain ⟨other, fixed, hother, hfixed, -⟩ := hwritten names hmem
      cases horiginal.symm.trans hother
      cases herror.symm.trans hfixed
    exact ⟨hnot, (hsound.shared.unwritten names hnot).trans horiginal⟩
  · rintro rfl hfinished
    refine ⟨Board.paths_run parser rules true store paths schedule, hsound.entries, fun task htask => ?_⟩
    obtain ⟨names, final, found, hprogress, hresolve, hprepares, hfinal, hlint⟩ :=
      hsound.of_isFinished hfinished htask
    obtain ⟨original, horiginal, hfixed⟩ := hprepares.exists_fixText_eq
    exact ⟨names, original, final, found, hresolve, horiginal, hfixed, hfinal, hprogress, hlint⟩
  · rintro rfl
    exact hsound.shared.untouched_of_false

/-! ### One file under two paths -/

namespace TwoPaths

/-- The names of the file. -/
def names : Names := ["work", "a.ts"]

/-- The text of the file. -/
def text : Text := "if (a) b();".toList

/-- What fixing makes of the text. -/
def fixed : Text := "if (a) \x7b\nb();\x7d".toList

/-- A file that two paths lead to. -/
def store : Store where
  resolve path := if path = "a.ts" ∨ path = "./a.ts" then .ok names else .error .notFound
  files := [(names, .text text)]

/-- Options with all rules for the given paths. -/
def options (files : List String) (fix : Bool) : Options where
  files := files
  json := false
  fix := fix
  selection := ⟨none, none⟩

/-- Both tasks read the file before one of them writes it. -/
def schedule : List Nat := [0, 1, 1, 0, 0, 1]

theorem loaded_eq : loaded store "a.ts" = .ok (names, text) ∧ loaded store "./a.ts" = .ok (names, text) :=
  ⟨rfl, rfl⟩

theorem fixText_eq :
    fixText programParser [Curly.fixable.toRule] (Url.ofFileNames names) text = .ok fixed := by
  decide +kernel

theorem lintText_eq :
    lintText programParser [Curly.fixable.toRule] (Url.ofFileNames names) fixed = .ok [] := by
  decide +kernel

theorem changed : fixed ≠ text := by
  decide +kernel

theorem writeIfChanged_eq (store : Store) (path : String) (hfree : store.locked names = none) :
    writeIfChanged store path names text fixed = .ok (store.replace names fixed) := by
  rw [writeIfChanged, if_neg changed, Store.write, hfree]
  rfl

theorem run_schedule_eq :
    (Board.start store ["a.ts", "./a.ts"]).run programParser [Curly.fixable.toRule] true schedule =
      { store := (store.replace names fixed).replace names fixed
        written := [names, names]
        entries := []
        tasks := [⟨"a.ts", .finished names fixed []⟩, ⟨"./a.ts", .finished names fixed []⟩] } := by
  have hprepared := prepared_true_eq_ok_iff.mpr fixText_eq
  have hlinted : linted programParser [Curly.fixable.toRule] (Url.ofFileNames names) fixed = .ok [] :=
    mapError_eq_ok_iff.mpr lintText_eq
  have hfirst := writeIfChanged_eq store "./a.ts" rfl
  have hsecond := writeIfChanged_eq (store.replace names fixed) "a.ts" rfl
  simp [schedule, Board.run, Board.step, Board.start, Task.next, loaded_eq, hprepared, hlinted, hfirst,
    hsecond, changed, entriesOf]

end TwoPaths

theorem twoPaths_while_interleaved :
    let board := (Board.start TwoPaths.store ["a.ts", "./a.ts"]).run programParser
      [Curly.fixable.toRule] true TwoPaths.schedule
    board.written = [TwoPaths.names, TwoPaths.names] ∧
      ∀ task ∈ board.tasks, ∃ names fixed found, board.store.contents? names = some (.text fixed) ∧
        task.progress = .finished names fixed found := by
  have hall := files_while_interleaved programParser [Curly.fixable.toRule] true TwoPaths.store
    ["a.ts", "./a.ts"] TwoPaths.schedule
  simp only [TwoPaths.run_schedule_eq] at hall ⊢
  obtain ⟨-, -, -, -, hend, -⟩ := hall
  refine ⟨trivial, fun task htask => ?_⟩
  obtain ⟨names, original, fixed, found, -, -, -, hfixed, hprogress, -⟩ :=
    (hend trivial rfl).2.2 task htask
  exact ⟨names, fixed, found, hfixed, hprogress⟩

end BraceLint.Command
