import BraceLint.Command.Run
import BraceLint.Proofs.Linted

/-! Tasks that take turns. A run has one task for each path it is given. A task reads its file, writes
it if fixing gives another text, and adds its diagnostics to those of all tasks; each of these is one
step, and between two steps of a task any other tasks may take theirs. A schedule says which task is
next, step by step. A run may end before all tasks have: that is a short schedule. Running the tasks
one after the other is one schedule among others. -/

namespace BraceLint.Command

/-- How far a task has come. -/
inductive Progress where
  | waiting
  /-- The file has been read. -/
  | loaded (names : Names) (text : Text)
  /-- The text to lint is known, and the file has been written if this is not the text it had. -/
  | saved (names : Names) (final : Text)
  /-- The text has been linted, and what was found is with what other tasks found. -/
  | finished (names : Names) (final : Text) (found : List Diagnostic)
  | failed (failure : Failure)

/-- Whether a task is through and did not fail. -/
def Progress.isFinished : Progress → Bool
  | .finished .. => true
  | _ => false

/-- A path and how far its task has come. -/
structure Task where
  path : String
  progress : Progress := .waiting

/-- What tasks have in common: the files, and the diagnostics they have found. -/
structure Shared where
  store : Store
  /-- The files that have been written, the latest first. -/
  written : List Names := []
  entries : List Entry := []

/-- The tasks of a run and what they have in common. -/
structure Board extends Shared where
  tasks : List Task

/-- The diagnostics that a task has added. -/
def Task.entries (task : Task) : List Entry :=
  match task.progress with
  | .finished _ final found => entriesOf final found
  | _ => []

/-- The next step of a task. -/
def Task.next (parser : Parser) (rules : List Rule) (fix : Bool) (shared : Shared) (task : Task) :
    Shared × Progress :=
  match task.progress with
  | .waiting =>
    match Command.loaded shared.store task.path with
    | .error failure => (shared, .failed failure)
    | .ok (names, text) => (shared, .loaded names text)
  | .loaded names text =>
    match prepared parser rules fix (Url.ofFileNames names) text with
    | .error failure => (shared, .failed failure)
    | .ok final =>
      match writeIfChanged shared.store task.path names text final with
      | .error failure => (shared, .failed failure)
      | .ok store =>
        let written := if final = text then shared.written else names :: shared.written
        ({ shared with store := store, written := written }, .saved names final)
  | .saved names final =>
    match linted parser rules (Url.ofFileNames names) final with
    | .error failure => (shared, .failed failure)
    | .ok found =>
      ({ shared with entries := shared.entries ++ entriesOf final found },
        .finished names final found)
  | progress => (shared, progress)

namespace Board

/-- A board with one task for each path, none of which has started. -/
def start (store : Store) (paths : List String) : Board where
  store := store
  tasks := paths.map fun path => { path := path }

/-- The task with the given number takes a step. -/
def step (parser : Parser) (rules : List Rule) (fix : Bool) (board : Board) (index : Nat) : Board :=
  match board.tasks[index]? with
  | none => board
  | some task =>
    let (shared, progress) := task.next parser rules fix board.toShared
    { shared with tasks := board.tasks.set index { task with progress := progress } }

/-- Tasks take steps as a schedule says. -/
def run (parser : Parser) (rules : List Rule) (fix : Bool) (board : Board) (schedule : List Nat) :
    Board :=
  schedule.foldl (step parser rules fix) board

/-- Whether all tasks are through and none has failed. -/
def isFinished (board : Board) : Bool :=
  board.tasks.all fun task => task.progress.isFinished

/-- A run may come to a result here: all tasks are through, and their diagnostics are the result, or
some task has failed. -/
def EndsWith (board : Board) : Except Failure (List Entry) → Prop
  | .ok entries => board.isFinished = true ∧ board.entries = entries
  | .error failure => ∃ task ∈ board.tasks, task.progress = .failed failure

end Board

/-! ### What a step can do -/

/-- The steps a task with a path can take: from where to where, and what becomes of the things that all
tasks share. -/
inductive Moves (parser : Parser) (rules : List Rule) (fix : Bool) (shared : Shared) (path : String) :
    Progress → Shared → Progress → Prop where
  | load {names : Names} {text : Text} (hload : loaded shared.store path = .ok (names, text)) :
      Moves parser rules fix shared path .waiting shared (.loaded names text)
  | keep {names : Names} {text : Text}
      (hprepared : prepared parser rules fix (Url.ofFileNames names) text = .ok text) :
      Moves parser rules fix shared path (.loaded names text) shared (.saved names text)
  | write {names : Names} {text final : Text}
      (hprepared : prepared parser rules fix (Url.ofFileNames names) text = .ok final)
      (hchanged : final ≠ text) (hfree : shared.store.locked names = none) :
      Moves parser rules fix shared path (.loaded names text)
        { shared with
          store := shared.store.replace names final
          written := names :: shared.written }
        (.saved names final)
  | lint {names : Names} {final : Text} {found : List Diagnostic}
      (hlint : linted parser rules (Url.ofFileNames names) final = .ok found) :
      Moves parser rules fix shared path (.saved names final)
        { shared with entries := shared.entries ++ entriesOf final found }
        (.finished names final found)
  | loadFails {failure : Failure} (hload : loaded shared.store path = .error failure) :
      Moves parser rules fix shared path .waiting shared (.failed failure)
  | fixFails {names : Names} {text : Text} {failure : Failure}
      (hprepared : prepared parser rules fix (Url.ofFileNames names) text = .error failure) :
      Moves parser rules fix shared path (.loaded names text) shared (.failed failure)
  | writeFails {names : Names} {text final : Text} {fault : FileFault}
      (hprepared : prepared parser rules fix (Url.ofFileNames names) text = .ok final)
      (hchanged : final ≠ text) (hlocked : shared.store.locked names = some fault) :
      Moves parser rules fix shared path (.loaded names text) shared (.failed (.unwritable path fault))
  | lintFails {names : Names} {final : Text} {failure : Failure}
      (hlint : linted parser rules (Url.ofFileNames names) final = .error failure) :
      Moves parser rules fix shared path (.saved names final) shared (.failed failure)
  | rest (progress : Progress) : Moves parser rules fix shared path progress shared progress

section Steps

variable (parser : Parser) (rules : List Rule) (fix : Bool)

theorem Task.moves_next (shared : Shared) (task : Task) :
    Moves parser rules fix shared task.path task.progress (task.next parser rules fix shared).1
      (task.next parser rules fix shared).2 := by
  obtain ⟨path, progress⟩ := task
  cases progress with
  | waiting =>
      cases hload : Command.loaded shared.store path with
      | error failure =>
          simp only [next, hload]
          exact .loadFails hload
      | ok place =>
          simp only [next, hload]
          exact .load hload
  | loaded names text =>
      cases hprepared : prepared parser rules fix (Url.ofFileNames names) text with
      | error failure =>
          simp only [next, hprepared]
          exact .fixFails hprepared
      | ok final =>
          by_cases hsame : final = text
          · subst hsame
            simp only [next, hprepared, writeIfChanged, if_true]
            exact .keep hprepared
          · cases hlocked : shared.store.locked names with
            | some fault =>
                simp only [next, hprepared, writeIfChanged, hsame, if_false, Store.write, hlocked]
                exact .writeFails hprepared hsame hlocked
            | none =>
                simp only [next, hprepared, writeIfChanged, hsame, if_false, Store.write, hlocked]
                exact .write hprepared hsame hlocked
  | saved names final =>
      cases hlint : linted parser rules (Url.ofFileNames names) final with
      | error failure =>
          simp only [next, hlint]
          exact .lintFails hlint
      | ok found =>
          simp only [next, hlint]
          exact .lint hlint
  | finished names final found => exact .rest _
  | failed failure => exact .rest _

namespace Board

theorem step_eq (shared : Shared) (before after : List Task) (task : Task) :
    step parser rules fix { shared with tasks := before ++ task :: after } before.length =
      { (task.next parser rules fix shared).1 with
        tasks := before ++
          { task with progress := (task.next parser rules fix shared).2 } :: after } := by
  simp [step]

/-- A step changes one task and leaves the others where they are, or there is no such task. -/
theorem step_cases (board : Board) (index : Nat) :
    board.step parser rules fix index = board ∨
      ∃ before task after shared progress, board.tasks = before ++ task :: after ∧
        Moves parser rules fix board.toShared task.path task.progress shared progress ∧
        board.step parser rules fix index =
          { shared with tasks := before ++ { task with progress := progress } :: after } := by
  cases hindex : board.tasks[index]? with
  | none => exact Or.inl (by simp [step, hindex])
  | some task =>
      obtain ⟨hlt, rfl⟩ := List.getElem?_eq_some_iff.mp hindex
      have htasks : board.tasks =
          board.tasks.take index ++ board.tasks[index] :: board.tasks.drop (index + 1) := by
        rw [← List.drop_eq_getElem_cons hlt, List.take_append_drop]
      have hstep := step_eq parser rules fix board.toShared (board.tasks.take index)
        (board.tasks.drop (index + 1)) board.tasks[index]
      rw [← htasks, List.length_take_of_le (Nat.le_of_lt hlt)] at hstep
      exact Or.inr ⟨_, _, _, _, _, htasks, Task.moves_next parser rules fix _ _, hstep⟩

theorem forall_mem_replaced {P : Task → Prop} {before after : List Task} {task changed : Task}
    (hall : ∀ other ∈ before ++ task :: after, P other) (hchanged : P changed) :
    ∀ other ∈ before ++ changed :: after, P other := by
  rw [List.forall_mem_append, List.forall_mem_cons] at hall ⊢
  exact ⟨hall.1, hchanged, hall.2.2⟩

theorem run_append (board : Board) (first second : List Nat) :
    board.run parser rules fix (first ++ second) =
      (board.run parser rules fix first).run parser rules fix second :=
  List.foldl_append

variable {parser rules fix} in
/-- What holds at the start and is kept by every step holds after every schedule. -/
theorem run_induction {P : Board → Prop} {board : Board} (hstart : P board)
    (hstep : ∀ board index, P board → P (board.step parser rules fix index)) (schedule : List Nat) :
    P (board.run parser rules fix schedule) := by
  induction schedule generalizing board with
  | nil => exact hstart
  | cons index schedule ih => exact ih (hstep board index hstart)

/-- Tasks keep their paths. -/
theorem paths_run (store : Store) (paths : List String) (schedule : List Nat) :
    ((start store paths).run parser rules fix schedule).tasks.map Task.path = paths := by
  apply run_induction (P := fun board => board.tasks.map Task.path = paths)
  · simp [start, Function.comp_def]
  · intro board index hpaths
    rcases board.step_cases parser rules fix index with
      hsame | ⟨before, task, after, shared, progress, htasks, -, hstep⟩
    · rw [hsame, hpaths]
    · rw [hstep, ← hpaths, htasks]
      simp

end Board

/-! ### One task after the other -/

/-- What is done for a path, stage by stage. -/
theorem runTask_eq (store : Store) (path : String) :
    runTask parser rules fix store path =
      match loaded store path with
      | .error failure => .error (store, failure)
      | .ok (names, text) =>
        match prepared parser rules fix (Url.ofFileNames names) text with
        | .error failure => .error (store, failure)
        | .ok final =>
          match writeIfChanged store path names text final with
          | .error failure => .error (store, failure)
          | .ok store =>
            match linted parser rules (Url.ofFileNames names) final with
            | .error failure => .error (store, failure)
            | .ok found => .ok ⟨store, entriesOf final found⟩ := by
  simp only [runTask, bind, Except.bind, Except.mapError, pure, Except.pure]
  cases loaded store path with
  | error failure => rfl
  | ok place =>
      cases hprepared : prepared parser rules fix (Url.ofFileNames place.1) place.2 with
      | error failure => simp only [hprepared]
      | ok final =>
          cases hwrite : writeIfChanged store path place.1 place.2 final with
          | error failure => simp only [hprepared, hwrite]
          | ok store =>
              cases hlint : linted parser rules (Url.ofFileNames place.1) final with
              | error failure => simp only [hprepared, hwrite, hlint]
              | ok found => simp only [hprepared, hwrite, hlint]

/-- All steps of a task, with nothing in between. -/
def Task.complete (shared : Shared) (task : Task) : Shared × Progress :=
  let (first, loaded) := task.next parser rules fix shared
  let (second, saved) := { task with progress := loaded : Task }.next parser rules fix first
  { task with progress := saved : Task }.next parser rules fix second

/-- A task that takes all its steps at once does what is done for its path. -/
theorem Task.complete_eq (shared : Shared) (path : String) :
    match runTask parser rules fix shared.store path,
      complete parser rules fix shared { path := path } with
    | .ok result, (after, progress) =>
      after.store = result.store ∧ after.entries = shared.entries ++ result.entries ∧
        progress.isFinished = true
    | .error (store, failure), (after, progress) => after.store = store ∧ progress = .failed failure := by
  rw [runTask_eq]
  simp only [complete, next]
  cases hload : Command.loaded shared.store path with
  | error failure => exact ⟨rfl, rfl⟩
  | ok place =>
      cases hprepared : prepared parser rules fix (Url.ofFileNames place.1) place.2 with
      | error failure => simp [hprepared]
      | ok final =>
          cases hwrite : writeIfChanged shared.store path place.1 place.2 final with
          | error failure => simp [hprepared, hwrite]
          | ok store =>
              cases hlint : linted parser rules (Url.ofFileNames place.1) final with
              | error failure => simp [hprepared, hwrite, hlint]
              | ok found => simp [hprepared, hwrite, hlint, Progress.isFinished]

namespace Board

theorem run_complete (shared : Shared) (before after : List Task) (task : Task) :
    run parser rules fix { shared with tasks := before ++ task :: after }
        [before.length, before.length, before.length] =
      { (task.complete parser rules fix shared).1 with
        tasks := before ++
          { task with progress := (task.complete parser rules fix shared).2 } :: after } := by
  simp only [run, List.foldl_cons, List.foldl_nil, step_eq, Task.complete]

/-- Running the tasks of paths one after the other is a schedule for a board on which all tasks before
them are through. -/
theorem exists_run_eq_runTasks (shared : Shared) (before : List Task) (paths : List String)
    (hbefore : ∀ task ∈ before, task.progress.isFinished = true) :
    ∃ schedule,
      let board := run parser rules fix
        { shared with tasks := before ++ paths.map fun path => { path := path } } schedule
      let ended := runTasks parser rules fix shared.store paths
      board.store = ended.1 ∧ board.EndsWith (ended.2.map fun entries => shared.entries ++ entries) := by
  induction paths generalizing shared before with
  | nil =>
      refine ⟨[], rfl, ?_, (List.append_nil _).symm⟩
      simpa [run, isFinished] using hbefore
  | cons path paths ih =>
      -- The first path takes all its steps, and then the others go on if it did not fail.
      have hfirst := run_complete parser rules fix shared before
        (paths.map fun path => { path := path }) { path := path }
      have hdone := Task.complete_eq parser rules fix shared path
      generalize Task.complete parser rules fix shared { path := path } = completed at hfirst hdone
      obtain ⟨after, progress⟩ := completed
      cases htask : runTask parser rules fix shared.store path with
      | error ended =>
          rw [htask] at hdone
          refine ⟨[before.length, before.length, before.length], ?_⟩
          simp only [runTasks, htask, List.map_cons, hfirst]
          exact ⟨hdone.1, _, List.mem_append_right _ List.mem_cons_self, hdone.2⟩
      | ok result =>
          rw [htask] at hdone
          obtain ⟨hstore, hentries, hfinished⟩ := hdone
          have hbefore' : ∀ task ∈ before ++ [⟨path, progress⟩], task.progress.isFinished = true := by
            intro task hmem
            rcases List.mem_append.mp hmem with hmem | hmem
            · exact hbefore task hmem
            · rw [List.mem_singleton.mp hmem]
              exact hfinished
          obtain ⟨schedule, hrest⟩ := ih after _ hbefore'
          refine ⟨[before.length, before.length, before.length] ++ schedule, ?_⟩
          rw [List.append_assoc, List.singleton_append, hstore, hentries] at hrest
          simp only [runTasks, htask, List.map_cons, run_append, hfirst]
          rcases hothers : runTasks parser rules fix result.store paths with ⟨store, failure | entries⟩
          · rw [hothers] at hrest
            exact hrest
          · rw [hothers] at hrest
            obtain ⟨hstore', hfinished', hentries'⟩ := hrest
            exact ⟨hstore', hfinished', hentries'.trans (List.append_assoc _ _ _)⟩

end Board

end Steps

/-! ### Runs of the command -/

/-- The rules that options choose. -/
def Options.rules (options : Options) : List Rule :=
  options.selection.rules.map Curly.toRule

/-- How a run of the command on files may end: with a board that some schedule leads to and on which
the run has come to a result, and with that result as it is shown. -/
def MayEnd (parser : Parser) (store : Store) (options : Options) (board : Board) (outcome : Outcome) :
    Prop :=
  ∃ schedule result,
    board = (Board.start store options.files).run parser options.rules options.fix schedule ∧
      board.EndsWith result ∧
      outcome = .ran options (options.rules.map Rule.code) (result.map ordered)

theorem run_eq (parser : Parser) (store : Store) {arguments : List String} {options : Options}
    (hrequest : Request.ofArguments arguments = .lint options) :
    run parser store arguments =
      ((runTasks parser options.rules options.fix store options.files).1,
        .ran options (options.rules.map Rule.code)
          ((runTasks parser options.rules options.fix store options.files).2.map ordered)) := by
  have hrules : options.selection.rules.map Curly.toRule = options.rules := rfl
  simp only [run, hrequest, hrules]
  rcases runTasks parser options.rules options.fix store options.files with ⟨store, failure | entries⟩
  · rfl
  · rfl

/-- The command runs its tasks one after the other, which is one of the ways in which a run may end. -/
theorem run_mayEnd (parser : Parser) (store : Store) {arguments : List String} {options : Options}
    (hrequest : Request.ofArguments arguments = .lint options) :
    ∃ board, MayEnd parser store options board (run parser store arguments).2 ∧
      board.store = (run parser store arguments).1 := by
  obtain ⟨schedule, hstore, hends⟩ := Board.exists_run_eq_runTasks parser options.rules options.fix
    { store := store } [] options.files fun _ hmem => absurd hmem List.not_mem_nil
  rw [run_eq parser store hrequest]
  refine ⟨_, ⟨schedule, _, rfl, hends, ?_⟩, hstore⟩
  cases (runTasks parser options.rules options.fix store options.files).2 with
  | error failure => rfl
  | ok entries => rfl

end BraceLint.Command
