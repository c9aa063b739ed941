import LevelGraph.Proofs.CommandLine.Stages
import LevelGraph.Proofs.Repositories
import LevelGraph.Proofs.Workspace.Verdict
import LevelGraph.Proofs.Workspace.Warnings

/-!
# Runs of the program

What a run exits with and prints follows from its stages alone: a run that stops at one exits with one and
complains about it, and any other exits with zero. References that are not resolved are counted and listed,
and that is all that becomes of them. Whatever a run does, the rows of the stores among the files are the
same afterwards.

Proof: `run_startLogging` and `run_runHost` say what each part of a run makes of the files, `ran_runIn` puts
them together by the first stage that fails, and `goesByStages` reads the rest off the four ways that a run
can go. The rows are carried from stage to stage by `FileTree.RowsKept`.
-/

namespace LevelGraph

namespace CommandLine

variable {tree files after : FileTree} {supply : IdSupply} {args : List String} {settings : Settings}
variable {location : String} {error : RunError}

section Running

variable {α β : Type} {action : StateM FileTree α} {next : α → StateM FileTree β} {value : α}

/-- The second action goes on with the value and the files that the first one leaves. -/
theorem run_bind_of_run (runs : action.run tree = (value, after)) :
    (action >>= next).run tree = (next value).run after := by
  rw [StateT.run_bind, runs]
  rfl

/-- What goes on from the files goes on from those that are there. -/
theorem run_get_bind {next : FileTree → StateM FileTree β} :
    (get >>= next).run tree = (next tree).run tree := rfl

/-- To look for the settings changes no file. -/
theorem run_findSettings (tree : FileTree) (args : List String) :
    (findSettings treeWorld args[0]?).run tree = (settingsIn tree args, tree) := by
  unfold findSettings settingsIn
  rcases args[0]? with _ | path
  · rfl
  · rfl

/-- The directory for logs is made in the tree. -/
theorem run_makeDirectory (tree : FileTree) (path : String) :
    (treeWorld.makeDirectory path).run tree = tree.makeDirectories path := rfl

/-- The log is left in the tree, and nobody learns what came of it. -/
theorem run_makeLog (tree : FileTree) (logging : Logging) (events : List Event) :
    (treeWorld.makeLog logging events).run tree = ((), logging.leave tree events) := rfl

/-- Connecting goes by the tree, and leaves the files that a look at the store leaves. -/
theorem run_connect (tree : FileTree) (path : String) :
    (treeWorld.connect path).run tree = tree.connect path := by
  simp only [treeWorld, FileTree.connect]
  rw [run_get_bind]
  rcases (Connections.start tree).reach path with _ | _ <;> rfl

/-- The store is kept in the tree, where its address leads to. -/
theorem run_keepStore (tree : FileTree) (path : String) (db : Database) :
    (treeWorld.keepStore path db).run tree = ((), tree.keep path db) := by
  simp only [treeWorld, FileTree.keep]
  rw [run_get_bind]
  rcases (Connections.start tree).reach path with _ | _ <;> rfl

/-- Logging starts in the tree as it does in a logbook, whose files are those of the tree once the events
have been logged. -/
theorem run_startLogging (tree : FileTree) (settings : Settings) : ∃ events prepared,
    (startLogging treeWorld settings).run tree =
      (⟨(logbookIn tree settings).1, (logbookIn tree settings).2.logging, events⟩, prepared) ∧
    tree.Grown prepared ∧
    (logbookIn tree settings).2.tree = (logbookIn tree settings).2.logging.leave prepared events := by
  unfold startLogging logbookIn
  rcases settings.logDirectory with _ | directory
  · exact ⟨[], tree, rfl, .refl tree, rfl⟩
  · simp only [Logbook.start, Logbook.closed, Logbook.prepare, Logbook.logging_log, Logbook.tree_log]
    generalize Logging.idle.start settings.logLevel directory = start
    rcases Logging.idle.wantedDirectory? directory with _ | wanted
    · exact ⟨(start (.ok ())).events, tree, rfl, .refl tree, rfl⟩
    · exact ⟨_, _, run_bind_of_run (run_makeDirectory tree wanted),
        FileTree.grown_makeDirectories tree wanted, rfl⟩

/-- The run that a sweep makes. -/
def Run.ofSweep (sweep : GameSweep) (logging : Logging) (events : List Event) : Run where
  output := header ++ (sweep.result.toOption.map sweepLines).getD []
  failure :=
    match sweep.result with
    | .ok _ => none
    | .error error => some error
  logging := logging
  events := events

/-- What comes of a run, by the stages. -/
inductive Ran (tree : FileTree) (supply : IdSupply) (args : List String) : Run → FileTree → Prop where
  /-- The settings are refused, or logging does not start. -/
  | refused {error : RunError} {logging : Logging} {events : List Event} {after : FileTree}
      (stops : Stops tree supply args error)
      (unbegun : ∀ settings files, ¬ Begins tree args settings files) (grown : tree.Grown after) :
      Ran tree supply args (Run.failed error logging events) after
  /-- No game is asked for. -/
  | bare {settings : Settings} {files after : FileTree} {logging : Logging} {events : List Event}
      (begun : Begins tree args settings files) (unasked : args[1]? = none) (grown : tree.Grown after) :
      Ran tree supply args ⟨header, none, logging, events⟩ after
  /-- A game is asked for, and a stage fails on the way to it. -/
  | failed {settings : Settings} {files after : FileTree} {error : RunError} {logging : Logging}
      {events : List Event} (begun : Begins tree args settings files)
      (stops : Stops tree supply args error)
      (kept : FileTree.RowsKept (tree.storeBehind? settings.storePath) tree after) :
      Ran tree supply args ⟨header, some error, logging, events⟩ after
  /-- A game is asked for, and is opened and swept. -/
  | swept {settings : Settings} {files after : FileTree} {ws : Workspace} {game : DocumentId}
      {doc : Document} {logging : Logging} {events : List Event}
      (begun : Begins tree args settings files) (opens : Opens tree supply args ws game)
      (found : ws.document? game = some doc)
      (kept : FileTree.RowsKept (tree.storeBehind? settings.storePath) tree after) :
      Ran tree supply args
        ⟨header ++ sweepLines (ws.loadSweep ⟨game, doc.root⟩).result, none, logging, events⟩ after

/-- A sweep makes a run that failed, or one that tells of a game. -/
theorem ran_ofSweep (begun : Begins tree args settings files) (asked : args[1]? = some location)
    (logging : Logging) (events : List Event)
    (kept : FileTree.RowsKept (tree.storeBehind? settings.storePath) tree after) :
    Ran tree supply args (Run.ofSweep (sweepIn files settings supply location) logging events) after := by
  rcases @sweepIn_cases _ _ supply _ _ _ begun asked with
    ⟨error, fails, stops⟩ | ⟨ws, game, doc, opens, found, done⟩
  · have run : Run.ofSweep (sweepIn files settings supply location) logging events =
        ⟨header, some error, logging, events⟩ := by
      rw [Run.ofSweep, fails]
      rfl
    rw [run]
    exact .failed begun stops kept
  · rw [Run.ofSweep, done]
    exact .swept begun opens found kept

/-- The files once a game has been looked for. -/
def filesAfter (files : FileTree) (settings : Settings) (sweep : GameSweep) : FileTree :=
  match sweep.store with
  | none => (files.connect settings.storePath).2
  | some db => (files.connect settings.storePath).2.keep settings.storePath db

/-- Looking for a game keeps the rows of the store, and those of all other stores that are not beside
it. -/
theorem rowsKept_filesAfter (files : FileTree) (settings : Settings) (supply : IdSupply)
    (location : String) :
    FileTree.RowsKept (files.storeBehind? settings.storePath) files
      (filesAfter files settings (sweepIn files settings supply location)) := by
  have connected := FileTree.rowsKept_connect files settings.storePath
  unfold filesAfter
  split
  · exact connected
  · rename_i db store
    obtain ⟨found, lock, finds, rows⟩ := rows_of_sweepIn store
    have behind := FileTree.storeBehind?_congr connected.workingDirectory settings.storePath
    refine connected.trans ?_
    rw [← behind]
    refine FileTree.rowsKept_keep fun place located writable => ?_
    rw [behind] at located
    rw [located] at connected
    rw [connected.own, FileTree.rows_connect finds located writable, rows]

/-- A game is looked for once the declarations have been told of. -/
theorem run_runHost (supply : IdSupply) (settings : Settings) {start : LoggingStart}
    (location : String)
    (logged : start.after.leave tree (start.events ++ [Host.builtin.loadedEvent]) = files) :
    ∃ events, (runHost treeWorld supply settings start Host.builtin (some location)).run tree =
      (Run.ofSweep (sweepIn files settings supply location) start.after events,
        filesAfter files settings (sweepIn files settings supply location)) := by
  have makes := run_makeLog tree start.after (start.events ++ [Host.builtin.loadedEvent])
  have connects := run_connect files settings.storePath
  have sweeps : sweepGame Host.builtin.schema supply location (files.connect settings.storePath).1 =
      sweepIn files settings supply location := rfl
  rw [logged] at makes
  simp only [runHost]
  rw [run_bind_of_run makes, run_bind_of_run (connects.trans Prod.mk.eta.symm), sweeps,
    headerLines_builtin]
  unfold filesAfter Run.ofSweep
  generalize sweepIn files settings supply location = sweep
  rcases sweep with ⟨result, _ | db, events⟩
  · rcases result with error | report
    · exact ⟨_, rfl⟩
    · exact ⟨_, rfl⟩
  · dsimp only
    rw [run_bind_of_run (run_keepStore ..)]
    rcases result with error | report
    · exact ⟨_, rfl⟩
    · exact ⟨_, rfl⟩

/-- What is logged at the end adds at most the log to the files. -/
theorem ran_of_run {ran : Run} (runs : (run treeWorld supply args).run tree = (ran, after))
    (left : Ran tree supply args ran (ran.logging.leave after ran.events)) :
    Ran tree supply args (runIn tree supply args).1 (runIn tree supply args).2 := by
  unfold runIn
  rw [runs]
  exact left

/-- Every run goes by its stages. -/
theorem ran_runIn (tree : FileTree) (supply : IdSupply) (args : List String) :
    Ran tree supply args (runIn tree supply args).1 (runIn tree supply args).2 := by
  rcases taken : settingsIn tree args with error | settings
  · have runs : (run treeWorld supply args).run tree =
        (Run.failed (.settings error) Logging.idle [], tree) := by
      rw [run, run_bind_of_run (run_findSettings ..), taken]
      rfl
    exact ran_of_run runs (.refused (.settings taken)
      (fun _ _ begun => nomatch taken.symm.trans begun.taken) (Logging.grown_leave ..))
  · obtain ⟨events, prepared, starts, grown, logged⟩ := run_startLogging tree settings
    rcases started : (logbookIn tree settings).1 with error | _
    · have runs : (run treeWorld supply args).run tree =
          (Run.failed (.logging error) (logbookIn tree settings).2.logging events, prepared) := by
        rw [run, run_bind_of_run (run_findSettings ..), taken]
        dsimp only
        rw [run_bind_of_run starts, started]
        rfl
      refine ran_of_run runs (.refused (.logging taken started) (fun other files begun => ?_)
        (grown.trans (Logging.grown_leave ..)))
      cases taken.symm.trans begun.taken
      cases started.symm.trans begun.started
    · have begun : Begins tree args settings ((logbookIn tree settings).2.logging.leave prepared
          (events ++ [Host.builtin.loadedEvent])) := by
        refine ⟨taken, started, ?_⟩
        rw [Logbook.tree_log, logged, Logging.leave_append]
      have hosted : (run treeWorld supply args).run tree =
          (runHost treeWorld supply settings ⟨.ok (), (logbookIn tree settings).2.logging, events⟩
            Host.builtin args[1]?).run prepared := by
        rw [run, run_bind_of_run (run_findSettings ..), taken]
        dsimp only
        rw [run_bind_of_run starts, started, Host.ofCollections_baseline]
      rcases asked : args[1]? with _ | location
      · have runs : (run treeWorld supply args).run tree =
            (⟨header, none, (logbookIn tree settings).2.logging, events ++ [Host.builtin.loadedEvent]⟩,
              prepared) := by
          rw [hosted, asked, ← headerLines_builtin]
          rfl
        exact ran_of_run runs (.bare begun asked (grown.trans (Logging.grown_leave ..)))
      · rw [asked] at hosted
        obtain ⟨more, hosts⟩ := run_runHost supply settings location rfl
        refine ran_of_run (hosted.trans hosts) (ran_ofSweep begun asked _ _ ?_)
        have grew := grown.trans (Logging.grown_leave (logbookIn tree settings).2.logging prepared
          (events ++ [Host.builtin.loadedEvent]))
        have kept := rowsKept_filesAfter ((logbookIn tree settings).2.logging.leave prepared
          (events ++ [Host.builtin.loadedEvent])) settings supply location
        rw [FileTree.storeBehind?_congr grew.workingDirectory] at kept
        exact (grew.rowsKept _).trans (kept.trans ((Logging.grown_leave ..).rowsKept _))

end Running

section Spec

/-- The references of the folder of a game document, each with the location that it declares, if there is
a folder. -/
def gameCells (schema : Schema) (doc : Document) : List (NodeId × Option String) :=
  ((doc.folder? schema doc.root).map fun folder =>
    (doc.folderCells schema folder).map doc.declaration).getD []

/-- Every visit of a load sweep has resolved its reference or has failed. -/
theorem length_resolved_add_unresolved (visits : List (Visit (Except WorkspaceError DocumentId))) :
    (visits.filterMap Visit.resolved?).length + (visits.filterMap Visit.unresolved?).length =
      visits.length := by
  induction visits with
  | nil => rfl
  | cons visit rest inductionHypothesis =>
    obtain ⟨cell, outcome, events⟩ := visit
    rcases outcome with error | target
    · simp only [List.filterMap_cons, Visit.resolved?, Visit.unresolved?, List.length_cons]
      omega
    · simp only [List.filterMap_cons, Visit.resolved?, Visit.unresolved?, List.length_cons]
      omega

/-- The report of a sweep over references, and the lines that are printed of it. -/
structure Tells (cells : List (NodeId × Option String)) (report : LoadReport) (lines : List String) :
    Prop where
  /-- Each reference is visited in order, and is listed as resolved or as failed, as its visit goes. -/
  visited : ∃ visits : List (Visit (Except WorkspaceError DocumentId)), visits.map (·.cell) = cells ∧
    report.resolved = visits.filterMap Visit.resolved? ∧
    report.failures = visits.filterMap Visit.unresolved?
  /-- Those that were tried are those that were resolved and those that were not. -/
  counted : report.attempted = cells.length ∧
    report.attempted = report.resolved.length + report.failures.length
  /-- The counts are printed, and then one entry for each failure. -/
  printed : lines = ("cells attempted=" ++ toString report.attempted ++ " resolved=" ++
      toString report.resolved.length ++ " failed=" ++ toString report.failures.length) ::
    report.failures.map failureLine

/-- The lines that are printed of a sweep tell of the references of the game, which are none where it
has no folder. -/
theorem tells_loadSweep {ws : Workspace} {game : DocumentId} {doc : Document}
    (found : ws.document? game = some doc) :
    Tells (gameCells ws.schema doc) (ws.loadSweep ⟨game, doc.root⟩).result
      (sweepLines (ws.loadSweep ⟨game, doc.root⟩).result) := by
  rcases first : doc.folder? ws.schema doc.root with _ | folder
  · rw [gameCells, first, Workspace.loadSweep_of_missing]
    · exact ⟨⟨[], rfl, rfl, rfl⟩, ⟨rfl, rfl⟩, rfl⟩
    · intro other there
      rw [← Option.some.inj (found.symm.trans there)]
      exact first
  · have listed : ws.cellsOf? ⟨game, doc.root⟩ =
        some ((doc.folderCells ws.schema folder).map doc.declaration) :=
      Workspace.cellsOf?_of_folder found first
    obtain ⟨visits, report, logged⟩ := Workspace.loadLogged_of_cells listed
    have count := length_resolved_add_unresolved visits
    rw [gameCells, first, Option.map_some, Option.getD_some, ← logged.visited, report]
    exact ⟨⟨visits, rfl, rfl, rfl⟩, ⟨(List.length_map _).symm, count.symm⟩, rfl⟩

/-- The place of the store that a run works on, if it is a file. -/
def storePlaceIn? (tree : FileTree) (args : List String) : Option Place :=
  match settingsIn tree args with
  | .ok settings => tree.storeBehind? settings.storePath
  | .error _ => none

/-- What a run exits with and prints, and what it leaves of the files, by the stages. -/
structure GoesByStages (tree : FileTree) (supply : IdSupply) (args : List String) (run : Run)
    (after : FileTree) : Prop where
  /-- If a stage fails, the run exits with one and writes one complaint, which is about that stage, and
  does not print how many cells there are. -/
  stopped : ∀ {error}, Stops tree supply args error →
    run.code = 1 ∧ run.complaints = ["error: " ++ error.message] ∧
      ∀ line ∈ run.output, line.startsWith "cells" = false
  /-- If none fails, it exits with zero and does not complain. -/
  passed : (∀ error, ¬ Stops tree supply args error) → run.code = 0 ∧ run.complaints = []
  /-- Nothing is printed unless the settings are taken and logging starts. -/
  silent : (∀ settings files, ¬ Begins tree args settings files) → run.output = []
  /-- Then the three lines are printed, and nothing else where no game is asked for or a later stage
  fails. -/
  headed : ∀ {settings files}, Begins tree args settings files →
    header <+: run.output ∧
      (args[1]? = none ∨ (∃ error, Stops tree supply args error) → run.output = header)
  /-- Where a game is asked for and no stage fails, the game is opened, and the sweep over its references
  is told of behind the three lines. However many of them are not resolved, the run exits with zero. -/
  swept : args[1]? ≠ none → (∀ error, ¬ Stops tree supply args error) →
    ∃ ws game doc lines, Opens tree supply args ws game ∧ ws.document? game = some doc ∧
      run.output = header ++ lines ∧
      Tells (gameCells ws.schema doc) (ws.loadSweep ⟨game, doc.root⟩).result lines ∧ run.code = 0
  /-- The rows of the store are the same, and so are those of all other stores that are not beside it. -/
  rows : FileTree.RowsKept (storePlaceIn? tree args) tree after ∧
    ∀ place, storePlaceIn? tree args = some place →
      after.rowsAt place.text = tree.rowsAt place.text

/-- The place of the store goes by the settings that the program has begun with. -/
theorem Begins.storePlaceIn?_eq (begun : Begins tree args settings files) :
    storePlaceIn? tree args = tree.storeBehind? settings.storePath := by
  rw [storePlaceIn?, begun.taken]

/-- No line of the header is taken for the one that counts the references. -/
theorem not_startsWith_of_mem_header : ∀ line ∈ header, line.startsWith "cells" = false := by
  decide +kernel

/-- A run that fails in one stage complains about that stage. -/
theorem stopped_of_failure {run : Run} {other : RunError} (stops : Stops tree supply args error)
    (fails : run.failure = some error) (quiet : run.output = [] ∨ run.output = header)
    (also : Stops tree supply args other) :
    run.code = 1 ∧ run.complaints = ["error: " ++ other.message] ∧
      ∀ line ∈ run.output, line.startsWith "cells" = false := by
  rw [also.unique stops, Run.code, Run.complaints, fails]
  refine ⟨rfl, rfl, ?_⟩
  rcases quiet with empty | short
  · rw [empty]
    exact List.forall_mem_nil _
  · rw [short]
    exact not_startsWith_of_mem_header

/-- No run changes the rows of a store. -/
theorem Ran.rowsKept {run : Run} (ran : Ran tree supply args run after) :
    FileTree.RowsKept (storePlaceIn? tree args) tree after := by
  cases ran with
  | refused stops unbegun grown => exact grown.rowsKept _
  | bare begun unasked grown => exact grown.rowsKept _
  | failed begun stops kept =>
    rw [begun.storePlaceIn?_eq]
    exact kept
  | swept begun opens found kept =>
    rw [begun.storePlaceIn?_eq]
    exact kept

/-- Every run, with any arguments and in any tree of files, goes by its stages. -/
theorem goesByStages (tree : FileTree) (supply : IdSupply) (args : List String) :
    GoesByStages tree supply args (runIn tree supply args).1 (runIn tree supply args).2 := by
  have ran := ran_runIn tree supply args
  have kept := ran.rowsKept
  have rows : FileTree.RowsKept (storePlaceIn? tree args) tree (runIn tree supply args).2 ∧
      ∀ place, storePlaceIn? tree args = some place →
        (runIn tree supply args).2.rowsAt place.text = tree.rowsAt place.text := by
    refine ⟨kept, fun place located => ?_⟩
    rw [located] at kept
    exact kept.own
  generalize (runIn tree supply args).1 = run at ran ⊢
  generalize (runIn tree supply args).2 = after at ran rows ⊢
  cases ran with
  | refused stops unbegun grown =>
    exact {
      stopped := stopped_of_failure stops rfl (.inl rfl)
      passed := fun none => absurd stops (none _)
      silent := fun _ => rfl
      headed := fun begun => absurd begun (unbegun _ _)
      swept := fun _ none => absurd stops (none _)
      rows := rows }
  | bare begun unasked grown =>
    exact {
      stopped := fun stops => absurd stops (begun.not_stops unasked)
      passed := fun _ => ⟨rfl, rfl⟩
      silent := fun unbegun => absurd begun (unbegun _ _)
      headed := fun _ => ⟨List.prefix_rfl, fun _ => rfl⟩
      swept := fun asked => absurd unasked asked
      rows := rows }
  | failed begun stops =>
    exact {
      stopped := stopped_of_failure stops rfl (.inr rfl)
      passed := fun none => absurd stops (none _)
      silent := fun unbegun => absurd begun (unbegun _ _)
      headed := fun _ => ⟨List.prefix_rfl, fun _ => rfl⟩
      swept := fun _ none => absurd stops (none _)
      rows := rows }
  | swept begun opens found =>
    exact {
      stopped := fun stops => absurd stops opens.not_stops
      passed := fun _ => ⟨rfl, rfl⟩
      silent := fun unbegun => absurd begun (unbegun _ _)
      headed := fun _ => ⟨List.prefix_append .., fun early =>
        early.elim (fun unasked => absurd unasked opens.asked)
          fun ⟨_, stops⟩ => absurd stops opens.not_stops⟩
      swept := fun _ _ => ⟨_, _, _, _, opens, found, rfl, tells_loadSweep found, rfl⟩
      rows := rows }

end Spec

section Stocked

/-- The tree of a game with a reference to a cell document and one that declares no location. -/
def planned : NodeRecord :=
  ⟨Uuid.ofNat 1, Names.gameType, Table.empty, [(Names.placementsFolderChild,
    [⟨Uuid.ofNat 2, Names.placementsFolderType, Table.empty, [(Names.cellChild,
      [⟨Uuid.ofNat 3, Names.placementsCellReferenceType,
          Table.ofList [(Names.uriAttribute, "a.cell")], []⟩,
        ⟨Uuid.ofNat 4, Names.placementsCellReferenceType, Table.empty, []⟩])]⟩])]⟩

/-- A repository with the game and the cell document. -/
def plans : Repository :=
  ⟨⟨latestVersion, some .table, some .index, Table.ofList
      [("a.cell", ⟨Names.placementsDocumentType,
          .text (NodeRecord.stored ⟨Uuid.ofNat 5, Names.placementsDocumentType, Table.empty, []⟩)⟩),
        ("level.game", ⟨Names.gameType, .text planned.stored⟩)]⟩,
    fun _ => false⟩

/-- Files with settings that ask for nothing, and with the store of the repository. -/
def stocked : FileTree :=
  ((FileTree.bare ["work"]).put ["work", "config.json"] (.bytes [0x7B, 0x7D])).put
    ["work", "xle_level.sqlite3"] (.store (StoreHead.ofDatabase plans.database))

/-- Identifiers from a number on. -/
def numbers : IdSupply := ⟨Uuid.ofNat, 100⟩

/-- The game. -/
def plannedGame : Document :=
  match Document.ofRecord numbers.next "level.game" planned Schema.builtin with
  | .ok doc => doc
  | .error _ => Document.create numbers.next numbers.next "level.game" ⟨0⟩

/-- The workspace that the game is opened in. -/
def opened : Workspace :=
  { Workspace.start Schema.builtin plans numbers with supply := numbers.advance }.register plannedGame

/-- The record can be laid out, and the document is the game. -/
theorem ofRecord_planned :
    Document.ofRecord numbers.next "level.game" planned Schema.builtin = .ok plannedGame := by
  have laid : (Document.ofRecord numbers.next "level.game" planned Schema.builtin).isOk = true := by
    decide +kernel
  unfold plannedGame
  split
  · assumption
  · next refused =>
    rw [refused] at laid
    cases laid

/-- The store has the record at one location and none at the other. -/
theorem load_plans :
    plans.load "level.game" = .ok (some planned) ∧ plans.load "nowhere" = .ok none := by
  have ordered : planned.Ordered := by
    simp [planned, NodeRecord.ordered_iff, Entries.Ascending]
  have body : plans.database.readBody "level.game" = .ok (some planned.stored) := by
    simp [plans, Database.readBody, Table.ofList, Table.find?_insert]
  have missing : plans.database.readBody "nowhere" = .ok none := by
    simp [plans, Database.readBody, Table.ofList, Table.find?_insert]
  have visible : Text.isBlankText "nowhere" = false := by decide
  constructor
  · exact (Repository.load_of_readBody (by decide) ordered body).trans (if_pos (by decide))
  · simp only [Repository.load, visible, Bool.false_eq_true, if_false, missing]

/-- The game is found at the one location, and no document at the other. -/
theorem gameIn_plans : ((gameIn plans numbers "level.game").result = .ok plannedGame.id ∧
      (gameIn plans numbers "level.game").after = opened) ∧
    (gameIn plans numbers "nowhere").result = .error (.documentNotFound "nowhere") := by
  have free (repository : Repository) (location : String) :
      (Workspace.start Schema.builtin repository numbers).documentAt? location = none := rfl
  constructor
  · have loads : (Workspace.start Schema.builtin plans numbers).loadAt numbers.next "level.game" =
        .ok plannedGame :=
      Workspace.loadAt_of_record load_plans.1 ofRecord_planned
    obtain ⟨events, opening⟩ := Workspace.openAt_of_loadable (free _ _) loads
    rw [gameIn, opening]
    exact ⟨rfl, rfl⟩
  · have misses : (Workspace.start Schema.builtin plans numbers).loadAt numbers.next "nowhere" =
        .error (.documentNotFound "nowhere") := by
      simp only [Workspace.loadAt, Workspace.start, load_plans]
    simp only [gameIn, Workspace.openAt_of_unloadable (free _ _) misses, Workspace.fail]

/-- The game is open afterwards. -/
theorem document?_opened : opened.document? plannedGame.id = some plannedGame := by
  rw [opened, Workspace.document?_register, if_pos rfl]

/-- Of its two references one is resolved, and the other has no location. -/
theorem loadSweep_opened : (opened.loadSweep ⟨plannedGame.id, plannedGame.root⟩).result =
    ⟨2, [(Uuid.ofNat 3, Uuid.ofNat 101)], [⟨Uuid.ofNat 4, none,
      "cell reference " ++ (Uuid.ofNat 4).text ++ " has no location"⟩]⟩ := by
  decide +kernel

/-- The one file of settings says what is standard, and the other one is not there. -/
theorem settingsIn_stocked (location : String) :
    settingsIn stocked ["config.json", location] = .ok Settings.standard ∧
      settingsIn stocked ["other.json", location] = .error (.unreadable "other.json" .notFound) := by
  have read : stocked.readText "config.json" = .ok "\x7b\x7d" ∧
      stocked.readText "other.json" = .error .notFound := by
    unfold FileTree.readText FileTree.find FileTree.placeOf FileTree.checkPath
    simp only [String.contains_char_eq]
    decide +kernel
  have empty : Settings.ofText "\x7b\x7d" = .ok Settings.standard := by
    decide +kernel
  simp only [settingsIn, List.getElem?_cons_zero, read, Settings.ofFile, empty, and_self]

/-- A run with the one file of settings begins with what is standard, and logs nothing for that. -/
theorem begins_stocked (location : String) :
    Begins stocked ["config.json", location] Settings.standard stocked :=
  ⟨(settingsIn_stocked location).1, rfl, rfl⟩

/-- The standard path of a store leads into the directory that the program runs in. -/
theorem storeBehind?_stocked :
    stocked.storeBehind? Settings.standard.storePath = some ["work", "xle_level.sqlite3"] := by
  decide +kernel

/-- The file there has the rows of the plans. -/
theorem rowsAt_stocked : stocked.rowsAt "/work/xle_level.sqlite3" = plans.database.rows := rfl

/-- It is opened as a store with them. -/
theorem storeIn_stocked : storeIn stocked Settings.standard = .ok plans.database := by
  -- The rows are left out of what is computed, since they hold texts that are long to write.
  have layout : (storeIn stocked Settings.standard).toOption.map
      (fun db => (db.version, db.documents, db.index)) =
        some ((latestVersion : Int), some .table, some .index) := by
    decide +kernel
  rcases opened : storeIn stocked Settings.standard with error | db
  · rw [opened] at layout
    cases layout
  · have rows : db.rows = plans.database.rows :=
      rows_of_storeIn opened storeBehind?_stocked (by decide +kernel)
    rw [opened] at layout
    obtain ⟨version, documents, index, held⟩ := db
    cases Option.some.inj layout
    cases rows
    rfl

/-- A run that asks for the game opens it. -/
theorem opens_stocked :
    Opens stocked numbers ["config.json", "level.game"] opened plannedGame.id := by
  obtain ⟨done, after⟩ := gameIn_plans.1
  rw [← after]
  exact .game (begins_stocked _) rfl storeIn_stocked rfl done

/-- A run that asks for the other location stops for want of a document. -/
theorem stops_stocked : Stops stocked numbers ["config.json", "nowhere"]
    (.workspace (.documentNotFound "nowhere")) :=
  .game (begins_stocked _) rfl storeIn_stocked rfl gameIn_plans.2

/-- A game with two references, one of which declares no location, is swept: the run exits with zero and
lists that reference, and leaves the rows of the store. A run that asks for a game that is not there stops
behind the lines about the program, and one whose settings cannot be read prints nothing but its
complaint. -/
theorem goesByStages_stocked :
    ((runIn stocked numbers ["config.json", "level.game"]).1.code = 0 ∧
      (runIn stocked numbers ["config.json", "level.game"]).1.output = header ++
        ["cells attempted=2 resolved=1 failed=1",
          "  unresolved location=<none> error=cell reference " ++ (Uuid.ofNat 4).text ++
            " has no location"] ∧
      (runIn stocked numbers ["config.json", "level.game"]).2.rowsAt "/work/xle_level.sqlite3" =
        plans.database.rows) ∧
    ((runIn stocked numbers ["config.json", "nowhere"]).1.code = 1 ∧
      (runIn stocked numbers ["config.json", "nowhere"]).1.output = header ∧
      (runIn stocked numbers ["config.json", "nowhere"]).1.complaints =
        ["error: document not found: nowhere"]) ∧
    (runIn stocked numbers ["other.json", "level.game"]).1.code = 1 ∧
      (runIn stocked numbers ["other.json", "level.game"]).1.output = [] ∧
      (runIn stocked numbers ["other.json", "level.game"]).1.complaints =
        ["error: failed to read config `other.json`: No such file or directory (os error 2)"] := by
  have full := goesByStages stocked numbers ["config.json", "level.game"]
  have away := goesByStages stocked numbers ["config.json", "nowhere"]
  have unread := goesByStages stocked numbers ["other.json", "level.game"]
  refine ⟨?swept, ?missing, ?refused⟩
  case swept =>
    obtain ⟨ws, game, doc, lines, opens, found, output, tells, code⟩ :=
      full.swept (Option.some_ne_none _) fun _ => opens_stocked.not_stops
    obtain ⟨rfl, rfl⟩ := opens_stocked.unique opens
    rw [document?_opened] at found
    cases found
    have located : storePlaceIn? stocked ["config.json", "level.game"] =
        some ["work", "xle_level.sqlite3"] := by
      rw [(begins_stocked _).storePlaceIn?_eq, storeBehind?_stocked]
    refine ⟨code, ?_, (full.rows.2 _ located).trans rowsAt_stocked⟩
    rw [output, tells.printed, loadSweep_opened]
    rfl
  case missing =>
    obtain ⟨code, complaints, -⟩ := away.stopped stops_stocked
    exact ⟨code, (away.headed (begins_stocked _)).2 (.inr ⟨_, stops_stocked⟩), complaints⟩
  case refused =>
    have refused := (settingsIn_stocked "level.game").2
    obtain ⟨code, complaints, -⟩ := unread.stopped (.settings refused)
    refine ⟨code, unread.silent fun _ _ begun => ?_, complaints⟩
    cases refused.symm.trans begun.taken

end Stocked

end CommandLine

end LevelGraph
