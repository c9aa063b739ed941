import LevelGraph.Files.Fault
import LevelGraph.Files.Path
import LevelGraph.Journal
import LevelGraph.Text.Blank

/-!
# Logging

Logging starts once in the life of a program. The first call that names a directory which
can be made fixes the level and the directory; a later call for the same two is accepted
and a call for others is a conflict. A directory is taken without the blanks around it
and has to be an absolute path. Directories are compared by what their paths amount to.

Until logging has started, events are lost. From then on those that the level admits are
kept, and a crash is kept as one more event. What a crash says may hold the text of
a document, so it is made one line and cut at a fixed length.
-/

namespace LevelGraph

/-- Why logging does not start. -/
inductive LoggingError where
  /-- There is no level of the name. -/
  | unsupportedLevel (name : String)
  /-- The directory is blank or no absolute path. -/
  | invalidDirectory (directory : String)
  /-- The directory cannot be made. -/
  | createDirectory (directory : String) (fault : FileFault)
  /-- Logging goes on at another level or in another directory. -/
  | conflict (level : LogLevel) (directory : String) (otherLevel : LogLevel)
      (otherDirectory : String)
  deriving DecidableEq

/-- A level and a directory in one word. -/
def describeLogging (level : LogLevel) (directory : String) : String :=
  level.name ++ "@" ++ directory

/-- What is wrong, in words. -/
def LoggingError.message : LoggingError → String
  | .unsupportedLevel name =>
    "unsupported log level `" ++ name ++ "`; expected trace|debug|info|warn|error"
  | .invalidDirectory directory =>
    "log_dir must be a non-empty absolute path, got `" ++ directory ++ "`"
  | .createDirectory directory fault =>
    "failed to create log directory `" ++ directory ++ "`: " ++ fault.message
  | .conflict level directory otherLevel otherDirectory =>
    "logging already initialized as `" ++ describeLogging level directory ++
      "`; refusing to switch to `" ++ describeLogging otherLevel otherDirectory ++ "`"

/-- The level of a name as people write it. -/
def LogLevel.parse (written : String) : Except LoggingError LogLevel :=
  match ofName? (normalizeName written) with
  | some level => .ok level
  | none => .error (.unsupportedLevel (normalizeName written))

/-- The text on one line, each end of a line made a space, and cut after so many
characters with three dots for the rest. -/
def oneLine (text : String) (limit : Nat) : String :=
  let flat := text.toList.map fun char => if char = '\n' ∨ char = '\r' then ' ' else char
  String.ofList (flat.take limit ++ if flat.length > limit then ['.', '.', '.'] else [])

/-- The number of characters that are kept of what a crash says. -/
def maxCrashText : Nat := 160

/-- The event of a crash, given what it says where that is a text. -/
def crashEvent (place : String) (said : Option String) : Event :=
  .crashCaptured place (oneLine (said.getD "non-string panic payload") maxCrashText)

/-- The name of the file that is written to in the directory for logs. -/
def logFileName : String := "xle_level_rCURRENT.log"

/-- The path of the log in a directory. -/
def logPath (directory : String) : String := Path.join directory logFileName

/-- The state of logging: the level and the directory once it has started. -/
structure Logging where
  /-- The level and the directory. -/
  active : Option (LogLevel × String)
  deriving DecidableEq

/-- What came of a call to start logging. -/
structure LoggingStart where
  /-- Whether logging goes on as asked for. -/
  result : Except LoggingError Unit
  /-- The state afterwards. -/
  after : Logging
  /-- What is to be logged. -/
  events : List Event

namespace Logging

/-- Logging has not started. -/
def idle : Logging := ⟨none⟩

/-- The directory for logs that a text names. -/
def directoryOf (written : String) : Except LoggingError String :=
  let directory := Text.trim written
  if Path.isAbsolute directory then .ok directory else .error (.invalidDirectory directory)

/-- The directory that has to be made before logging can start as asked for. -/
def wantedDirectory? (logging : Logging) (written : String) : Option String :=
  match logging.active with
  | some _ => none
  | none => (directoryOf written).toOption

/-- Start logging, given what came of making the wanted directory. -/
def start (logging : Logging) (level : LogLevel) (written : String)
    (made : Except FileFault Unit) : LoggingStart :=
  match directoryOf written with
  | .error error => ⟨.error error, logging, []⟩
  | .ok directory =>
    match logging.active with
    | some (activeLevel, activeDirectory) =>
      if activeLevel = level ∧ Path.same activeDirectory directory then ⟨.ok (), logging, []⟩
      else ⟨.error (.conflict activeLevel activeDirectory level directory), logging, []⟩
    | none =>
      match made with
      | .error fault => ⟨.error (.createDirectory directory fault), logging, []⟩
      | .ok () => ⟨.ok (), ⟨some (level, directory)⟩, [.loggingStarted level directory]⟩

/-- The events that are kept. -/
def kept (logging : Logging) (events : List Event) : List Event :=
  match logging.active with
  | none => []
  | some (level, _) => events.filter fun event => level.admits event.level

end Logging

end LevelGraph
