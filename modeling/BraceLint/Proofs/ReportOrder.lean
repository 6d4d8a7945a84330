import BraceLint.Proofs.Interleaving
import BraceLint.Proofs.PrintedLine
import Mathlib.Algebra.Ring.Nat
import Mathlib.Data.List.Nodup

/-! What is reported when nothing is to be fixed. Tasks add their diagnostics in any order, and files
may be named in any order and more than once. Sorting makes up for this because entries that sort alike
are alike: they are about the same file, and in one file no two diagnostics start at the same place. -/

namespace BraceLint.Command

/-! ### Entries in order -/

theorem Entry.le_iff {left right : Entry} :
    Entry.le left right = true ↔
      left.1.specifier.render < right.1.specifier.render ∨
        left.1.specifier.render = right.1.specifier.render ∧
          left.1.range.start.byte ≤ right.1.range.start.byte := by
  simp [Entry.le]

theorem Entry.le_trans (first second third : Entry) (hfirst : Entry.le first second = true)
    (hsecond : Entry.le second third = true) : Entry.le first third = true := by
  rw [le_iff] at hfirst hsecond ⊢
  rcases hfirst with hlt | ⟨heq, hle⟩
  · rcases hsecond with hlt' | ⟨heq', -⟩
    · exact Or.inl (String.lt_trans hlt hlt')
    · exact Or.inl (heq' ▸ hlt)
  · rw [heq]
    exact hsecond.imp_right fun ⟨heq', hle'⟩ => ⟨heq', hle.trans hle'⟩

theorem Entry.le_total (left right : Entry) : (Entry.le left right || Entry.le right left) = true := by
  rw [Bool.or_eq_true, le_iff, le_iff]
  by_cases hlt : left.1.specifier.render < right.1.specifier.render
  · exact Or.inl (Or.inl hlt)
  · by_cases hgt : right.1.specifier.render < left.1.specifier.render
    · exact Or.inr (Or.inl hgt)
    · have heq : left.1.specifier.render = right.1.specifier.render := String.le_antisymm hgt hlt
      exact (Nat.le_total left.1.range.start.byte right.1.range.start.byte).imp
        (fun hle => Or.inr ⟨heq, hle⟩) fun hge => Or.inr ⟨heq.symm, hge⟩

theorem Entry.key_eq_of_le_of_le {left right : Entry} (hle : Entry.le left right = true)
    (hge : Entry.le right left = true) :
    left.1.specifier.render = right.1.specifier.render ∧
      left.1.range.start.byte = right.1.range.start.byte := by
  rcases Entry.le_iff.mp hle with hlt | ⟨heq, hle⟩
  · rcases Entry.le_iff.mp hge with hgt | ⟨heq, -⟩
    · exact absurd (String.lt_trans hlt hgt) (String.lt_irrefl _)
    · exact absurd (heq ▸ hlt) (String.lt_irrefl _)
  · rcases Entry.le_iff.mp hge with hgt | ⟨-, hge⟩
    · exact absurd (heq ▸ hgt) (String.lt_irrefl _)
    · exact ⟨heq, Nat.le_antisymm hle hge⟩

theorem ordered_perm (entries : List Entry) : (ordered entries).Perm entries :=
  List.mergeSort_perm entries Entry.le

theorem pairwise_ordered (entries : List Entry) :
    (ordered entries).Pairwise fun left right => Entry.le left right = true :=
  List.pairwise_mergeSort Entry.le_trans Entry.le_total entries

/-- The order in which entries were found does not show if no two different ones sort alike. -/
theorem ordered_eq_of_perm {entries others : List Entry} (hperm : entries.Perm others)
    (halike : ∀ left ∈ entries, ∀ right ∈ entries, Entry.le left right = true →
      Entry.le right left = true → left = right) :
    ordered entries = ordered others := by
  have hboth : (ordered entries).Perm (ordered others) :=
    (ordered_perm entries).trans (hperm.trans (ordered_perm others).symm)
  refine hboth.eq_of_pairwise ?_ (pairwise_ordered entries) (pairwise_ordered others)
  intro left right hleft hright
  exact halike left ((ordered_perm entries).mem_iff.mp hleft) right
    (hperm.mem_iff.mpr ((ordered_perm others).mem_iff.mp hright))

/-! ### What tasks find -/

section Reported

variable {parser : Parser} {rules : List Rule} {store : Store} {path : String}

/-- What the task of a path finds. -/
def reported (parser : Parser) (rules : List Rule) (store : Store) (path : String) : List Entry :=
  match runTask parser rules false store path with
  | .ok result => result.entries
  | .error _ => []

/-- A task that fixes nothing lints the text of its file. -/
theorem runTask_false_eq_ok_iff {result : TaskResult} :
    runTask parser rules false store path = .ok result ↔
      ∃ names text found, store.resolve path = .ok names ∧ store.contents? names = some (.text text) ∧
        lintText parser rules (Url.ofFileNames names) text = .ok found ∧
        result = ⟨store, entriesOf text found⟩ := by
  have hprepared (names : Names) (text : Text) :
      prepared parser rules false (Url.ofFileNames names) text = .ok text :=
    prepared_false_eq_ok_iff.mpr rfl
  have hwrite (names : Names) (text : Text) : writeIfChanged store path names text text = .ok store :=
    if_pos rfl
  rw [runTask_eq]
  constructor
  · intro h
    split at h
    · cases h
    · next names text hload =>
        obtain ⟨hresolve, hcontents⟩ := loaded_eq_ok_iff.mp hload
        simp only [hprepared, hwrite] at h
        split at h
        · cases h
        · next found hlint =>
            cases h
            exact ⟨names, text, found, hresolve, hcontents, mapError_eq_ok_iff.mp hlint, rfl⟩
  · rintro ⟨names, text, found, hresolve, hcontents, hlint, rfl⟩
    have hlinted : linted parser rules (Url.ofFileNames names) text = .ok found :=
      mapError_eq_ok_iff.mpr hlint
    simp only [loaded_eq_ok_iff.mpr ⟨hresolve, hcontents⟩, hprepared, hwrite, hlinted]

theorem exists_reported_eq (h : ∃ result, runTask parser rules false store path = .ok result) :
    ∃ names text found, store.resolve path = .ok names ∧ store.contents? names = some (.text text) ∧
      lintText parser rules (Url.ofFileNames names) text = .ok found ∧
      reported parser rules store path = entriesOf text found := by
  obtain ⟨result, htask⟩ := h
  obtain ⟨names, text, found, hresolve, hcontents, hlint, rfl⟩ := runTask_false_eq_ok_iff.mp htask
  exact ⟨names, text, found, hresolve, hcontents, hlint, by rw [reported, htask]⟩

end Reported

/-- However the tasks of a run take turns, they find together what each of them finds alone. -/
theorem MayEnd.exists_perm_reported {parser : Parser} {store : Store} {options : Options} {board : Board}
    {outcome : Outcome} (hends : MayEnd parser store options board outcome) (hfix : options.fix = false)
    (hnone : ∀ path ∈ options.files, ∃ result, runTask parser options.rules false store path = .ok result) :
    ∃ entries, entries.Perm (options.files.flatMap (reported parser options.rules store)) ∧
      outcome = .ran options (options.rules.map Rule.code) (.ok (ordered entries)) ∧
      board.store = store ∧ board.written = [] := by
  rw [← hfix] at hnone
  obtain ⟨hsound, hpaths, hfinished, houtcome⟩ := hends.isFinished hnone
  rw [hfix] at hsound
  obtain ⟨hwritten, hstore⟩ := hsound.shared.untouched_of_false
  refine ⟨board.entries, ?_, houtcome, hstore, hwritten⟩
  rw [← hpaths, List.flatMap_map]
  refine hsound.entries.trans (List.Perm.of_eq (List.flatMap_congr fun task htask => ?_))
  obtain ⟨names, final, found, hprogress, hresolve, -, hcontents, hlint⟩ :=
    hsound.of_isFinished hfinished htask
  rw [hstore] at hcontents
  have halone := runTask_false_eq_ok_iff.mpr ⟨names, final, found, hresolve, hcontents, hlint, rfl⟩
  rw [reported, halone, Task.entries, hprogress]

/-! ### Entries that sort alike -/

/-- Different files that paths lead to have different specifiers. -/
def SpecifiersApart (store : Store) (paths : List String) : Prop :=
  ∀ path ∈ paths, ∀ other ∈ paths, ∀ names names', store.resolve path = .ok names →
    store.resolve other = .ok names' →
    (Url.ofFileNames names).render = (Url.ofFileNames names').render → names = names'

/-- In the files that paths lead to, statements without braces start at different places. -/
def StartsApart (parser : Parser) (store : Store) (paths : List String) : Prop :=
  ∀ path ∈ paths, ∀ names text tree, store.resolve path = .ok names →
    store.contents? names = some (.text text) →
    parser (Url.ofFileNames names) (MediaType.ofUrl (Url.ofFileNames names)) text = .ok tree →
    (tree.unbraced.map fun statement => statement.span.start).Nodup

section Alike

variable {parser : Parser} {store : Store} {options : Options}

/-- In one file, diagnostics that start at the same place are the same, and all have its specifier. -/
theorem Options.alike_of_lintText {specifier : Url} {text : Text} {found : List Diagnostic}
    (hlint : lintText parser options.rules specifier text = .ok found)
    (hstarts : ∀ tree, parser specifier (MediaType.ofUrl specifier) text = .ok tree →
      (tree.unbraced.map fun statement => statement.span.start).Nodup) :
    (startBytes found).Nodup ∧ ∀ diagnostic ∈ found, diagnostic.specifier = specifier := by
  obtain rfl | ⟨tree, hparse, hyields⟩ := Selection.cases_of_lintText hlint
  · exact ⟨List.nodup_nil, fun _ hmem => absurd hmem List.not_mem_nil⟩
  · rw [startBytes_eq hyields]
    exact ⟨hstarts tree hparse, specifier_eq_of_forall₂ hyields⟩

/-- Entries that sort alike are the same. -/
theorem eq_of_le_of_le
    (hnone : ∀ path ∈ options.files, ∃ result, runTask parser options.rules false store path = .ok result)
    (hspecifiers : SpecifiersApart store options.files) (hstarts : StartsApart parser store options.files)
    {left right : Entry} (hleft : left ∈ options.files.flatMap (reported parser options.rules store))
    (hright : right ∈ options.files.flatMap (reported parser options.rules store))
    (hle : Entry.le left right = true) (hge : Entry.le right left = true) : left = right := by
  obtain ⟨path, hpath, hleft⟩ := List.mem_flatMap.mp hleft
  obtain ⟨other, hother, hright⟩ := List.mem_flatMap.mp hright
  obtain ⟨names, text, found, hresolve, hcontents, hlint, hreported⟩ :=
    exists_reported_eq (hnone path hpath)
  obtain ⟨names', text', found', hresolve', hcontents', hlint', hreported'⟩ :=
    exists_reported_eq (hnone other hother)
  rw [hreported] at hleft
  rw [hreported'] at hright
  obtain ⟨diagnostic, hmem, rfl⟩ := List.mem_map.mp hleft
  obtain ⟨diagnostic', hmem', rfl⟩ := List.mem_map.mp hright
  obtain ⟨hnodup, hspecifier⟩ := Options.alike_of_lintText hlint fun tree hparse =>
    hstarts path hpath names text tree hresolve hcontents hparse
  obtain ⟨-, hspecifier'⟩ := Options.alike_of_lintText hlint' fun tree hparse =>
    hstarts other hother names' text' tree hresolve' hcontents' hparse
  obtain ⟨hrender, hstart⟩ := Entry.key_eq_of_le_of_le hle hge
  rw [hspecifier diagnostic hmem, hspecifier' diagnostic' hmem'] at hrender
  obtain rfl := hspecifiers path hpath other hother names names' hresolve hresolve' hrender
  cases hcontents.symm.trans hcontents'
  cases hlint.symm.trans hlint'
  have hsame : diagnostic = diagnostic' := List.inj_on_of_nodup_map hnodup hmem hmem' hstart
  rw [hsame]

end Alike

/-! ### The report -/

theorem Outcome.exitCode_ran_eq_zero_iff {options : Options} {codes : List String} {entries : List Entry} :
    (Outcome.ran options codes (.ok entries)).exitCode = 0 ↔ entries.length = 0 := by
  cases entries with
  | nil => exact ⟨fun _ => rfl, fun _ => rfl⟩
  | cons entry entries => exact ⟨nofun, nofun⟩

/-- With the log off, the standard error output has the reports of the entries and their number. -/
theorem Outcome.standardError_false {options : Options} {codes : List String} {entries : List Entry} :
    (Outcome.ran options codes (.ok entries)).standardError false =
      (if options.json then "" else String.join (entries.map Outcome.shown)) ++
        (if entries.length = 0 then "" else "Found " ++ toString entries.length ++ " problems\n") := by
  show "" ++ (if options.json then "" else String.join (entries.map Outcome.shown)) ++
    Outcome.summary entries.length = _
  rw [String.empty_append]
  rfl

/-- Each entry that a task finds has a report, unless it runs backwards. -/
theorem exists_render?_of_mem_reported {parser : Parser} {rules : List Rule} {store : Store}
    {path : String} (hnone : ∃ result, runTask parser rules false store path = .ok result) {entry : Entry}
    (hmem : entry ∈ reported parser rules store path)
    (hforward : entry.1.range.start.byte ≤ entry.1.range.stop.byte) :
    ∃ printed, Terminal.render? entry.1 entry.2 = some printed := by
  obtain ⟨names, text, found, -, -, hlint, hreported⟩ := exists_reported_eq hnone
  rw [hreported] at hmem
  obtain ⟨diagnostic, hdiagnostic, rfl⟩ := List.mem_map.mp hmem
  exact exists_render?_of_lintText hlint hdiagnostic hforward

/-- What a terminal shows of entries are their reports, with an empty line after each. -/
theorem Outcome.exists_join_shown (entries : List Entry) :
    ∃ printed : List String,
      List.Forall₂ (fun (entry : Entry) report => ∀ shown,
        Terminal.render? entry.1 entry.2 = some shown → report = shown) entries printed ∧
      String.join (entries.map Outcome.shown) = String.join (printed.map fun report => report ++ "\n\n") := by
  refine ⟨entries.map fun entry => (Terminal.render? entry.1 entry.2).getD "", ?_, ?_⟩
  · rw [List.forall₂_map_right_iff]
    exact List.forall₂_same.mpr fun entry _ shown hshown => by rw [hshown, Option.getD_some]
  · rw [List.map_map]
    rfl

/-- **The report does not depend on the order of tasks or paths.** Where nothing is to be fixed and no
task fails, every way in which tasks take turns and every order of the paths gives the same report, and
with it the same output and exit code. The report has the diagnostics of each file as often as the file
is named, file by file and in the order in which they start. Each of them that does not run backwards is
printed as a terminal shows it, and their number comes last. -/
theorem report_eq_of_any_order (parser : Parser) (store : Store) (options : Options)
    (hfix : options.fix = false)
    (hnone : ∀ path ∈ options.files, ∃ result, runTask parser options.rules false store path = .ok result)
    (hspecifiers : SpecifiersApart store options.files)
    (hstarts : StartsApart parser store options.files) :
    let found := reported parser options.rules store
    let codes := options.rules.map Rule.code
    let count := (options.files.map fun path => (found path).length).sum
    ∃ (report : List Entry) (printed : List String),
      (∀ path ∈ options.files, ∃ names text diagnostics, store.resolve path = .ok names ∧
        store.contents? names = some (.text text) ∧
        lintText parser options.rules (Url.ofFileNames names) text = .ok diagnostics ∧
        found path = entriesOf text diagnostics) ∧
      report.Perm (options.files.flatMap found) ∧
      (report.Pairwise fun left right =>
        left.1.specifier.render < right.1.specifier.render ∨
          left.1.specifier.render = right.1.specifier.render ∧
            left.1.range.start.byte ≤ right.1.range.start.byte) ∧
      List.Forall₂ (fun (entry : Entry) text =>
        entry.1.range.start.byte ≤ entry.1.range.stop.byte →
          Terminal.render? entry.1 entry.2 = some text) report printed ∧
      ∀ files, files.Perm options.files →
        let named := { options with files := files }
        let outcome := Outcome.ran named codes (.ok report)
        (∀ board ended, MayEnd parser store named board ended →
          ended = outcome ∧ board.store = store ∧ board.written = []) ∧
        (∀ arguments, Request.ofArguments arguments = .lint named →
          run parser store arguments = (store, outcome)) ∧
        outcome.standardOutput =
          (if options.json then
            String.ofList (Json.pretty 0 (.array (report.map fun entry => entry.1.toJson))) ++ "\n"
          else "") ∧
        outcome.standardError false =
          (if options.json then "" else String.join (printed.map fun text => text ++ "\n\n")) ++
            (if count = 0 then "" else "Found " ++ toString count ++ " problems\n") ∧
        (outcome.exitCode = 0 ↔ count = 0) := by
  intro found codes count
  have hperm := ordered_perm (options.files.flatMap found)
  have hcount : (ordered (options.files.flatMap found)).length = count := by
    rw [hperm.length_eq, List.length_flatMap]
  obtain ⟨printed, hprinted, hjoin⟩ := Outcome.exists_join_shown (ordered (options.files.flatMap found))
  refine ⟨ordered (options.files.flatMap found), printed,
    fun path hpath => exists_reported_eq (hnone path hpath), hperm,
    (pairwise_ordered _).imp Entry.le_iff.mp, ?_, fun files hfiles => ?_⟩
  · refine ((List.forall₂_and_left _ _).mpr ⟨fun _ => id, hprinted⟩).imp ?_
    rintro entry text ⟨hentry, hreport⟩ hforward
    obtain ⟨path, hpath, hmem⟩ := List.mem_flatMap.mp (hperm.mem_iff.mp hentry)
    obtain ⟨shown, hshown⟩ := exists_render?_of_mem_reported (hnone path hpath) hmem hforward
    rw [hreport shown hshown, hshown]
  intro named outcome
  have hends : ∀ board ended, MayEnd parser store named board ended →
      ended = outcome ∧ board.store = store ∧ board.written = [] := by
    intro board ended hmay
    obtain ⟨entries, hentries, hended, hstore, hwritten⟩ := hmay.exists_perm_reported hfix fun path hpath =>
      hnone path (hfiles.mem_iff.mp hpath)
    have hsame : (options.files.flatMap found).Perm entries :=
      (hentries.trans (hfiles.flatMap_right found)).symm
    have hreport : ordered (options.files.flatMap found) = ordered entries :=
      ordered_eq_of_perm hsame fun _ hleft _ hright =>
        eq_of_le_of_le hnone hspecifiers hstarts hleft hright
    refine ⟨?_, hstore, hwritten⟩
    rw [hended, ← hreport]
    rfl
  refine ⟨hends, fun arguments hrequest => ?_, rfl, ?_, ?_⟩
  · obtain ⟨board, hmay, hboard⟩ := run_mayEnd parser store hrequest
    obtain ⟨hended, hstore, -⟩ := hends board _ hmay
    exact Prod.ext (hboard.symm.trans hstore) hended
  · rw [← hcount, ← hjoin]
    exact Outcome.standardError_false
  · rw [← hcount]
    exact Outcome.exitCode_ran_eq_zero_iff

/-! ### Two files, one of them named twice -/

namespace TwoFiles

/-- The names of a file with two statements without braces. -/
def first : Names := ["work", "a.ts"]

/-- The names of a file with one such statement. -/
def second : Names := ["work", "b.ts"]

/-- Two files. Two paths lead to the second one. -/
def store : Store where
  resolve path :=
    if path = "a.ts" then .ok first
    else if path = "b.ts" ∨ path = "./b.ts" then .ok second
    else .error .notFound
  files := [(first, .text LoopAroundIf.text), (second, .text TwoPaths.text)]

/-- The tree of the second file. -/
def tree : Tree :=
  .node ⟨0, 11⟩ [.control (.ifElse ⟨0, 11⟩ (.node ⟨4, 5⟩ [])
    (.node ⟨7, 11⟩ [.node ⟨7, 10⟩ [.node ⟨7, 8⟩ []]]) none)]

theorem parse_first : programParser (Url.ofFileNames first) (MediaType.ofUrl (Url.ofFileNames first))
    LoopAroundIf.text = .ok LoopAroundIf.tree := by
  have htype : MediaType.ofUrl (Url.ofFileNames first) = MediaType.ofUrl SourceFile.exampleUrl := by
    decide +kernel
  rw [htype]
  exact LoopAroundIf.parse

theorem parse_second : programParser (Url.ofFileNames second) (MediaType.ofUrl (Url.ofFileNames second))
    TwoPaths.text = .ok tree := by
  decide +kernel

/-- The diagnostic of the loop in the first file. -/
def loop : Diagnostic :=
  { LoopAroundIf.loop with specifier := Url.ofFileNames first }

/-- The diagnostic of the `if` in the loop. -/
def branch : Diagnostic :=
  { LoopAroundIf.branch with specifier := Url.ofFileNames first }

/-- The diagnostic of the second file. -/
def single : Diagnostic :=
  .expected (Url.ofFileNames second) ⟨0, 0, 0⟩ ⟨0, 11, 11⟩ "Use curly braces for \x60if\x60 statement"
    ⟨7, 11⟩ "\x7b\nb();\x7d"

/-- What is reported. The file that two paths lead to comes twice. -/
def report : List Entry :=
  [(loop, LoopAroundIf.text), (branch, LoopAroundIf.text), (single, TwoPaths.text), (single, TwoPaths.text)]

/-- The outcome of a run on the given paths. -/
def outcome (files : List String) : Outcome :=
  .ran (TwoPaths.options files false) ["curly"] (.ok report)

/-- What a terminal shows of the second file. -/
def printedSingle : String :=
  "(\x1b[38;5;8mcurly\x1b[0m) Use curly braces for \x60if\x60 statement\n" ++
  "\x1b[38;5;14m --> file:///work/b.ts:1:1\x1b[0m\n" ++
  "  |\n" ++
  "1 | if (a) b();\n" ++
  "  | \x1b[31m^^^^^^^^^^^\x1b[0m\n" ++
  "  = hint: Add curly braces around the body of this statement\n\n"

/-- What a terminal shows of the report. -/
def printed : String :=
  "(\x1b[38;5;8mcurly\x1b[0m) Use curly braces for \x60while\x60 statement\n" ++
  "\x1b[38;5;14m --> file:///work/a.ts:1:1\x1b[0m\n" ++
  "  |\n" ++
  "1 | while (a) if (b) c();\n" ++
  "  | \x1b[31m^^^^^^^^^^^^^^^^^^^^^\x1b[0m\n" ++
  "  = hint: Add curly braces around the body of this statement\n\n" ++
  "(\x1b[38;5;8mcurly\x1b[0m) Use curly braces for \x60if\x60 statement\n" ++
  "\x1b[38;5;14m --> file:///work/a.ts:1:11\x1b[0m\n" ++
  "  |\n" ++
  "1 | while (a) if (b) c();\n" ++
  "  |           \x1b[31m^^^^^^^^^^^\x1b[0m\n" ++
  "  = hint: Add curly braces around the body of this statement\n\n" ++
  printedSingle ++ printedSingle ++
  "Found 4 problems\n"

theorem eq_of_resolve {path : String} {names : Names} (h : store.resolve path = .ok names) :
    names = first ∨ names = second := by
  unfold store at h
  dsimp only at h
  split_ifs at h
  · exact Or.inl (Except.ok.inj h).symm
  · exact Or.inr (Except.ok.inj h).symm

theorem specifiersApart (files : List String) : SpecifiersApart store files := by
  have hapart : (Url.ofFileNames first).render ≠ (Url.ofFileNames second).render := by decide +kernel
  intro _ _ _ _ names names' hresolve hresolve' hrender
  rcases eq_of_resolve hresolve with rfl | rfl
  · rcases eq_of_resolve hresolve' with rfl | rfl
    · rfl
    · exact absurd hrender hapart
  · rcases eq_of_resolve hresolve' with rfl | rfl
    · exact absurd hrender.symm hapart
    · rfl

theorem startsApart (files : List String) : StartsApart programParser store files := by
  intro _ _ names text tree' hresolve hcontents hparse
  rcases eq_of_resolve hresolve with rfl | rfl
  · have htext : some (Contents.text LoopAroundIf.text) = some (.text text) := hcontents
    cases htext
    cases parse_first.symm.trans hparse
    decide
  · have htext : some (Contents.text TwoPaths.text) = some (.text text) := hcontents
    cases htext
    cases parse_second.symm.trans hparse
    decide

end TwoFiles

/-- Both orders of the paths give the four diagnostics, file by file. -/
theorem twoFiles_report_eq :
    run programParser TwoFiles.store ["b.ts", "a.ts", "./b.ts"] =
      (TwoFiles.store, TwoFiles.outcome ["b.ts", "a.ts", "./b.ts"]) ∧
    run programParser TwoFiles.store ["a.ts", "b.ts", "./b.ts"] =
      (TwoFiles.store, TwoFiles.outcome ["a.ts", "b.ts", "./b.ts"]) ∧
    ∀ files, (TwoFiles.outcome files).standardOutput = "" ∧
      (TwoFiles.outcome files).standardError false = TwoFiles.printed ∧
      (TwoFiles.outcome files).exitCode = 1 := by
  let options := TwoPaths.options ["b.ts", "a.ts", "./b.ts"] false
  have hlint : lintText programParser options.rules (Url.ofFileNames TwoFiles.first) LoopAroundIf.text =
      .ok [TwoFiles.loop, TwoFiles.branch] :=
    lintText_eq_ok_iff.mpr ⟨_, TwoFiles.parse_first, by decide +kernel⟩
  have hlint' : lintText programParser options.rules (Url.ofFileNames TwoFiles.second) TwoPaths.text =
      .ok [TwoFiles.single] :=
    lintText_eq_ok_iff.mpr ⟨_, TwoFiles.parse_second, by decide +kernel⟩
  have hfirst : runTask programParser options.rules false TwoFiles.store "a.ts" =
      .ok ⟨TwoFiles.store, entriesOf LoopAroundIf.text [TwoFiles.loop, TwoFiles.branch]⟩ :=
    runTask_false_eq_ok_iff.mpr ⟨_, _, _, rfl, rfl, hlint, rfl⟩
  have hsecond : ∀ path, path = "b.ts" ∨ path = "./b.ts" →
      runTask programParser options.rules false TwoFiles.store path =
        .ok ⟨TwoFiles.store, entriesOf TwoPaths.text [TwoFiles.single]⟩ := by
    rintro path (rfl | rfl)
    · exact runTask_false_eq_ok_iff.mpr ⟨_, _, _, rfl, rfl, hlint', rfl⟩
    · exact runTask_false_eq_ok_iff.mpr ⟨_, _, _, rfl, rfl, hlint', rfl⟩
  have hnone : ∀ path ∈ options.files, ∃ result,
      runTask programParser options.rules false TwoFiles.store path = .ok result := by
    intro path hpath
    have hpaths : path = "b.ts" ∨ path = "a.ts" ∨ path = "./b.ts" := by
      simpa [options, TwoPaths.options] using hpath
    rcases hpaths with rfl | rfl | rfl
    · exact ⟨_, hsecond _ (Or.inl rfl)⟩
    · exact ⟨_, hfirst⟩
    · exact ⟨_, hsecond _ (Or.inr rfl)⟩
  obtain ⟨report, _, -, hperm, hsorted, -, hany⟩ := report_eq_of_any_order programParser
    TwoFiles.store options rfl hnone (TwoFiles.specifiersApart _) (TwoFiles.startsApart _)
  have hreport : report = TwoFiles.report := by
    have hfound : options.files.flatMap (reported programParser options.rules TwoFiles.store) =
        [(TwoFiles.single, TwoPaths.text), (TwoFiles.loop, LoopAroundIf.text),
          (TwoFiles.branch, LoopAroundIf.text), (TwoFiles.single, TwoPaths.text)] := by
      show ["b.ts", "a.ts", "./b.ts"].flatMap _ = _
      simp only [List.flatMap_cons, List.flatMap_nil, reported, hfirst, hsecond _ (Or.inl rfl),
        hsecond _ (Or.inr rfl)]
      rfl
    have hexpected : report.Perm TwoFiles.report := hperm.trans (by rw [hfound]; decide +kernel)
    have halike : ∀ left ∈ TwoFiles.report, ∀ right ∈ TwoFiles.report, Entry.le left right = true →
        Entry.le right left = true → left = right := by
      decide +kernel
    exact hexpected.eq_of_pairwise (fun left right hleft => halike left (hexpected.mem_iff.mp hleft) right)
      (hsorted.imp Entry.le_iff.mpr) (by decide +kernel)
  subst hreport
  refine ⟨(hany _ (List.Perm.refl _)).2.1 _ (by decide +kernel),
    (hany ["a.ts", "b.ts", "./b.ts"] (List.Perm.swap _ _ _)).2.1 _ (by decide +kernel), fun files => ?_⟩
  have hprinted : (TwoFiles.outcome []).standardError false = TwoFiles.printed := by decide +kernel
  exact ⟨rfl, hprinted, rfl⟩

end BraceLint.Command
