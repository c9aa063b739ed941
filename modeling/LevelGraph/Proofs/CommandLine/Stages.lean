import LevelGraph.Proofs.Host
import LevelGraph.Proofs.Logging
import LevelGraph.Proofs.Store.RowsKept
import LevelGraph.Proofs.Workspace.SaveHistory

/-!
# Stages of a run

A run of the program goes through its stages until one fails. `Stops` says when a stage fails, and with
what, each stage by itself: the settings by the text of their file, logging by the logbook, the store by
what a connection finds among the files, the repository by the database, and the game by the workspace over
it. `Opens` says that all have succeeded and what is open then. No run does both, and no run does either in
two ways.
-/

namespace LevelGraph

/-- The host of the built-in declarations. -/
def Host.builtin : Host := ⟨Schema.builtin, Host.layersRegistry Schema.builtin⟩

/-- The built-in declarations are taken up. -/
theorem Host.ofCollections_baseline : ofCollections [TypeCollection.baseline] = .ok builtin := by
  have slotted : (Schema.builtin.childInfo? Schema.builtin.tags.terrainBaseTexture
      Names.strataChild).isSome = true := by
    decide +kernel
  refine ofCollections_of_hasSlot Schema.ofCollection_baseline rfl ?_
  rw [← Schema.exists_childInfo?_iff_hasSlot Schema.ofCollection_baseline
    (typeId?_terrainBaseTexture Schema.ofCollection_baseline)]
  exact Option.isSome_iff_exists.mp slotted

/-- A repository has the database that it was made of. -/
theorem Repository.database_of_ofDatabase {db : Database} {repository : Repository}
    (fit : ofDatabase db = .ok repository) : repository.database = db := by
  unfold ofDatabase at fit
  split at fit
  · cases fit
  · split at fit
    · cases fit
    · split at fit
      · rw [← Except.ok.inj fit]
      · rw [← Except.ok.inj fit]
      · cases fit

namespace CommandLine

variable {tree files after : FileTree} {supply : IdSupply} {args : List String} {settings : Settings}
variable {location : String} {error : RunError}

/-- The lines that the program prints about itself. -/
def header : List String :=
  ["xle_level_core version=0.1.0", "schema resource=LevelEditorXLE.Schema/xleroot.xsd",
    "game type=gameType"]

/-- The header is that of the built-in types. -/
theorem headerLines_builtin : headerLines Host.builtin = header := by
  decide +kernel

section Stages

/-- The settings that the arguments name. -/
def settingsIn (tree : FileTree) (args : List String) : Except SettingsError Settings :=
  match args[0]? with
  | none => .ok Settings.standard
  | some path => Settings.ofFile path (tree.readText path)

/-- Logging as settings ask for it, started if they name a directory. -/
def logbookIn (tree : FileTree) (settings : Settings) : Except LoggingError Unit × Logbook :=
  match settings.logDirectory with
  | none => (.ok (), Logbook.closed tree)
  | some directory => (Logbook.closed tree).start settings.logLevel directory

/-- The store that settings name, opened. -/
def storeIn (files : FileTree) (settings : Settings) : Except StoreError Database :=
  (openStore "file" (files.connect settings.storePath).1).result

/-- The game at a location of a repository, opened. -/
def gameIn (repository : Repository) (supply : IdSupply) (location : String) :
    Outcome (Except WorkspaceError DocumentId) :=
  (Workspace.start Schema.builtin repository supply).openAt location

/-- Settings are found and logging starts, and the files are such then. -/
structure Begins (tree : FileTree) (args : List String) (settings : Settings) (files : FileTree) :
    Prop where
  /-- The settings are taken. -/
  taken : settingsIn tree args = .ok settings
  /-- Logging starts, if it is asked for. -/
  started : (logbookIn tree settings).1 = .ok ()
  /-- The files are those of the logbook, in which the declarations are told of. -/
  logged : files = ((logbookIn tree settings).2.log [Host.builtin.loadedEvent]).tree

/-- A stage of a run fails: all stages before it have succeeded, and it is refused itself. -/
inductive Stops (tree : FileTree) (supply : IdSupply) (args : List String) : RunError → Prop where
  /-- The settings. -/
  | settings {error : SettingsError} (refused : settingsIn tree args = .error error) :
      Stops tree supply args (.settings error)
  /-- Logging. -/
  | logging {settings : Settings} {error : LoggingError} (taken : settingsIn tree args = .ok settings)
      (refused : (logbookIn tree settings).1 = .error error) : Stops tree supply args (.logging error)
  /-- The store. -/
  | store {settings : Settings} {files : FileTree} {location : String} {error : StoreError}
      (begun : Begins tree args settings files) (asked : args[1]? = some location)
      (refused : storeIn files settings = .error error) : Stops tree supply args (.store error)
  /-- The repository. -/
  | repository {settings : Settings} {files : FileTree} {location : String} {db : Database}
      {error : RepositoryError} (begun : Begins tree args settings files)
      (asked : args[1]? = some location) (opened : storeIn files settings = .ok db)
      (refused : Repository.ofDatabase db = .error error) : Stops tree supply args (.repository error)
  /-- The game. -/
  | game {settings : Settings} {files : FileTree} {location : String} {db : Database}
      {repository : Repository} {error : WorkspaceError} (begun : Begins tree args settings files)
      (asked : args[1]? = some location) (opened : storeIn files settings = .ok db)
      (fit : Repository.ofDatabase db = .ok repository)
      (refused : (gameIn repository supply location).result = .error error) :
      Stops tree supply args (.workspace error)

/-- All stages succeed, and a game is open in a workspace. -/
inductive Opens (tree : FileTree) (supply : IdSupply) (args : List String) :
    Workspace → DocumentId → Prop where
  /-- The game of the second argument. -/
  | game {settings : Settings} {files : FileTree} {location : String} {db : Database}
      {repository : Repository} {id : DocumentId} (begun : Begins tree args settings files)
      (asked : args[1]? = some location) (opened : storeIn files settings = .ok db)
      (fit : Repository.ofDatabase db = .ok repository)
      (done : (gameIn repository supply location).result = .ok id) :
      Opens tree supply args (gameIn repository supply location).after id

end Stages

section Sweeps

/-- What comes of the stages that need the files, once logging has started. -/
def sweepIn (files : FileTree) (settings : Settings) (supply : IdSupply) (location : String) :
    GameSweep :=
  sweepGame Schema.builtin supply location (files.connect settings.storePath).1

/-- A game that was opened in a workspace without open documents is open. -/
theorem exists_document_of_gameIn {repository : Repository} {id : DocumentId}
    (done : (gameIn repository supply location).result = .ok id) :
    ∃ doc, (gameIn repository supply location).after.document? id = some doc := by
  have opens := (Workspace.start Schema.builtin repository supply).openAt_opens location
  unfold gameIn at done ⊢
  generalize (Workspace.start Schema.builtin repository supply).openAt location = opening at opens done ⊢
  cases opens with
  | held placed => cases placed
  | refused => cases done
  | @loaded doc =>
    cases done
    exact ⟨doc, by rw [Workspace.document?_register, if_pos rfl]⟩

/-- No two stages fail in one run. -/
theorem Stops.unique {other : RunError} (first : Stops tree supply args error)
    (second : Stops tree supply args other) : error = other := by
  cases first <;> cases second <;> grind [Begins]

/-- No two games are open. -/
theorem Opens.unique {ws other : Workspace} {game id : DocumentId}
    (first : Opens tree supply args ws game) (second : Opens tree supply args other id) :
    ws = other ∧ game = id := by
  cases first
  cases second
  grind [Begins]

/-- No stage fails where a game is open. -/
theorem Opens.not_stops {ws : Workspace} {game : DocumentId} (opens : Opens tree supply args ws game) :
    ¬ Stops tree supply args error := by
  intro stops
  cases opens
  cases stops <;> grind [Begins]

/-- A game is open only where one is asked for. -/
theorem Opens.asked {ws : Workspace} {game : DocumentId} (opens : Opens tree supply args ws game) :
    args[1]? ≠ none := by
  cases opens with
  | game begun asked =>
    rw [asked]
    exact Option.some_ne_none _

/-- Nor does any fail without a game once logging has started. -/
theorem Begins.not_stops (begun : Begins tree args settings files) (unasked : args[1]? = none) :
    ¬ Stops tree supply args error := by
  intro stops
  cases stops <;> grind [Begins]

/-- What comes of the stages that need the store. -/
theorem sweepIn_cases (begun : Begins tree args settings files) (asked : args[1]? = some location) :
    (∃ error, (sweepIn files settings supply location).result = .error error ∧
      Stops tree supply args error) ∨
    ∃ ws game doc, Opens tree supply args ws game ∧ ws.document? game = some doc ∧
      (sweepIn files settings supply location).result = .ok (ws.loadSweep ⟨game, doc.root⟩).result := by
  unfold sweepIn sweepGame
  rcases opened : storeIn files settings with error | db
  · refine .inl ⟨.store error, ?_, .store begun asked opened⟩
    unfold storeIn at opened
    simp only [opened]
  · have store := opened
    unfold storeIn at store
    simp only [store]
    rcases fit : Repository.ofDatabase db with error | repository
    · exact .inl ⟨.repository error, rfl, .repository begun asked opened fit⟩
    · rcases done : (gameIn repository supply location).result with error | id
      · refine .inl ⟨.workspace error, ?_, .game begun asked opened fit done⟩
        unfold gameIn at done
        simp only [sweepWorkspace, done]
      · obtain ⟨doc, found⟩ := exists_document_of_gameIn done
        refine .inr ⟨_, id, doc, .game begun asked opened fit done, found, ?_⟩
        unfold gameIn at done found ⊢
        simp only [sweepWorkspace, done, found]

/-- Sweeping a game keeps the repository of the workspace. -/
theorem repository_sweepWorkspace (ws : Workspace) (location : String) :
    (sweepWorkspace ws location).after.repository = ws.repository := by
  have opening := (ws.quiet_openAt location).repository
  unfold sweepWorkspace
  dsimp only
  split
  · exact opening
  · split
    · exact opening
    · exact ((Workspace.quiet_loadSweep _).repository).trans opening

/-- A store that has been opened has the rows that were found. -/
theorem rows_of_openStore {mode : String} {connection : Except EngineFault Connected} {db : Database}
    (opened : (openStore mode connection).result = .ok db) :
    ∃ found lock, connection = .ok (.database found lock) ∧ db.rows = found.rows := by
  unfold openStore at opened
  split at opened
  · cases opened
  · rename_i connected
    rcases connected with ⟨found, lock⟩ | fault
    · refine ⟨found, lock, rfl, ?_⟩
      dsimp only at opened
      split at opened
      · rw [← Except.ok.inj opened]
        exact (Database.extends_migrateUnder lock found).rows
      · cases opened
    · cases opened

/-- The database of a store file that can be written has the rows of the file. -/
theorem rows_of_storeIn {place : Place} {db : Database} (opened : storeIn files settings = .ok db)
    (behind : files.storeBehind? settings.storePath = some place)
    (writable : StoreAddress.readsOnly settings.storePath = false) :
    db.rows = files.rowsAt place.text := by
  obtain ⟨found, lock, finds, rows⟩ := rows_of_openStore opened
  rw [rows, FileTree.rows_connect finds behind writable]

/-- A store that is to be kept has the rows that were found. -/
theorem rows_of_sweepIn {kept : Database}
    (store : (sweepIn files settings supply location).store = some kept) :
    ∃ found lock, (files.connect settings.storePath).1 = .ok (.database found lock) ∧
      kept.rows = found.rows := by
  unfold sweepIn sweepGame at store
  dsimp only at store
  split at store
  · cases store
  · rename_i db opened
    obtain ⟨found, lock, finds, rows⟩ := rows_of_openStore opened
    refine ⟨found, lock, finds, ?_⟩
    rw [← rows]
    split at store
    · rw [← Option.some.inj store]
    · rename_i repository fit
      have same : kept = repository.database := by
        have swept := congrArg Repository.database (repository_sweepWorkspace
          (Workspace.start Schema.builtin repository supply) location)
        split at store
        · exact (Option.some.inj store).symm.trans swept
        · exact (Option.some.inj store).symm.trans swept
      rw [same, Repository.database_of_ofDatabase fit]

end Sweeps

end CommandLine

end LevelGraph
