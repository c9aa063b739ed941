import LevelGraph.Host
import LevelGraph.Logging
import LevelGraph.Settings
import LevelGraph.Workspace.Sweep

/-!
# The program

The program takes the path of a settings file and the location of a game, both of which
may be left out. It prints three lines about itself, then opens the game and resolves its
cell references, and prints how many were resolved and why the others were not.

A run goes through stages: settings, logging, declarations, store, repository, game. The
first stage that fails ends it with one complaint and a failing exit code. References that
cannot be resolved are part of a successful run.

What a run needs of the world around it is a handful of things, each done at most once, in
the order of the stages. The rest is decided here.
-/

namespace LevelGraph.CommandLine

/-- What a run asks of the world around it. -/
structure Surroundings (m : Type → Type) where
  /-- Read a file of text. -/
  readText : String → m (Except FileFault String)
  /-- Make a directory and what is missing on the way to it. -/
  makeDirectory : String → m (Except FileFault Unit)
  /-- Make the log once there are events for it. -/
  makeLog : Logging → List Event → m Unit
  /-- Connect to the store behind a path. -/
  connect : String → m (Except EngineFault Connected)
  /-- Keep the store behind a path as the run leaves it. -/
  keepStore : String → Database → m Unit

/-- Why a run fails. -/
inductive RunError where
  /-- The settings are refused. -/
  | settings (error : SettingsError)
  /-- Logging does not start. -/
  | logging (error : LoggingError)
  /-- The declarations are refused. -/
  | host (error : HostError)
  /-- The store does not open. -/
  | store (error : StoreError)
  /-- The store is no repository. -/
  | repository (error : RepositoryError)
  /-- The game does not open. -/
  | workspace (error : WorkspaceError)
  deriving DecidableEq

/-- What is wrong, in words. -/
def RunError.message : RunError → String
  | .settings error => error.message
  | .logging error => error.message
  | .host error => error.message
  | .store error => error.message
  | .repository error => error.message
  | .workspace error => error.message

/-- What a run did. -/
structure Run where
  /-- What it printed, line by line. -/
  output : List String
  /-- Why it failed, if it did. -/
  failure : Option RunError
  /-- The state of logging at its end. -/
  logging : Logging
  /-- What is to be logged. -/
  events : List Event

namespace Run

/-- The exit code. -/
def code (run : Run) : Nat := if run.failure.isSome then 1 else 0

/-- The complaints, line by line. -/
def complaints (run : Run) : List String :=
  match run.failure with
  | some error => ["error: " ++ error.message]
  | none => []

/-- A run that fails before it prints anything, after some events. -/
def failed (error : RunError) (logging : Logging) (events : List Event) : Run :=
  ⟨[], some error, logging, events ++ [.runFailed error.message]⟩

end Run

/-- The lines that the program prints about itself. -/
def headerLines (host : Host) : List String :=
  ["xle_level_core version=" ++ version,
    "schema resource=" ++ Host.resourceNamespace ++ "/" ++ Host.resourceName,
    "game type=" ++ host.schema.typeName host.schema.tags.game]

/-- The line for a reference that was not resolved. -/
def failureLine (failure : ReferenceFailure) : String :=
  "  unresolved location=" ++ failure.location.getD "<none>" ++ " error=" ++ failure.message

/-- The lines for a sweep. -/
def sweepLines (report : LoadReport) : List String :=
  ("cells attempted=" ++ toString report.attempted ++ " resolved=" ++
    toString report.resolved.length ++ " failed=" ++ toString report.failures.length) ::
  report.failures.map failureLine

/-- What came of sweeping a game. -/
structure GameSweep where
  /-- The report of the sweep. -/
  result : Except RunError LoadReport
  /-- The store afterwards, if it opened. -/
  store : Option Database
  /-- What is to be logged. -/
  events : List Event

/-- Open a game of a workspace and sweep it. -/
def sweepWorkspace (ws : Workspace) (location : String) : Outcome (Except WorkspaceError LoadReport) :=
  let opening := ws.openAt location
  match opening.result with
  | .error error => ⟨.error error, opening.after, opening.events⟩
  | .ok id =>
    match opening.after.document? id with
    | none => ⟨.error (.documentNotOpen id), opening.after, opening.events⟩
    | some doc =>
      let sweep := opening.after.loadSweep ⟨id, doc.root⟩
      ⟨.ok sweep.result, sweep.after, opening.events ++ sweep.events⟩

/-- Open a store and sweep the game at a location of it. -/
def sweepGame (schema : Schema) (supply : IdSupply) (location : String)
    (connection : Except EngineFault Connected) : GameSweep :=
  let opening := openStore "file" connection
  match opening.result with
  | .error error => ⟨.error (.store error), none, opening.events⟩
  | .ok db =>
    match Repository.ofDatabase db with
    | .error error => ⟨.error (.repository error), some db, opening.events⟩
    | .ok repository =>
      let sweep := sweepWorkspace (Workspace.start schema repository supply) location
      let events := opening.events ++ sweep.events
      let store := some sweep.after.repository.database
      match sweep.result with
      | .error error => ⟨.error (.workspace error), store, events⟩
      | .ok report => ⟨.ok report, store, events⟩

/-- The settings for a run. -/
def findSettings {m : Type → Type} [Monad m] (around : Surroundings m) (path : Option String) :
    m (Except SettingsError Settings) :=
  match path with
  | none => pure (.ok Settings.standard)
  | some path => do return Settings.ofFile path (← around.readText path)

/-- Start logging as the settings ask for. -/
def startLogging {m : Type → Type} [Monad m] (around : Surroundings m) (settings : Settings) :
    m LoggingStart :=
  match settings.logDirectory with
  | none => pure ⟨.ok (), Logging.idle, []⟩
  | some written =>
    match Logging.idle.wantedDirectory? written with
    | none => pure (Logging.idle.start settings.logLevel written (.ok ()))
    | some directory => do
      return Logging.idle.start settings.logLevel written (← around.makeDirectory directory)

/-- The run once logging has started and the declarations are taken up. -/
def runHost {m : Type → Type} [Monad m] (around : Surroundings m) (supply : IdSupply)
    (settings : Settings) (start : LoggingStart) (host : Host) (location : Option String) :
    m Run := do
  let begun := start.events ++ [host.loadedEvent]
  match location with
  | none => return ⟨headerLines host, none, start.after, begun⟩
  | some location =>
    around.makeLog start.after begun
    let sweep := sweepGame host.schema supply location (← around.connect settings.storePath)
    if let some db := sweep.store then around.keepStore settings.storePath db
    match sweep.result with
    | .ok report =>
      return ⟨headerLines host ++ sweepLines report, none, start.after, begun ++ sweep.events⟩
    | .error error =>
      return ⟨headerLines host, some error, start.after,
        begun ++ sweep.events ++ [.runFailed error.message]⟩

/-- A run with the given arguments. -/
def run {m : Type → Type} [Monad m] (around : Surroundings m) (supply : IdSupply)
    (args : List String) : m Run := do
  match ← findSettings around args[0]? with
  | .error error => return Run.failed (.settings error) Logging.idle []
  | .ok settings =>
    let start ← startLogging around settings
    match start.result with
    | .error error => return Run.failed (.logging error) start.after start.events
    | .ok () =>
      match Host.ofCollections [TypeCollection.baseline] with
      | .error error => return Run.failed (.host error) start.after start.events
      | .ok host => runHost around supply settings start host args[1]?

end LevelGraph.CommandLine
