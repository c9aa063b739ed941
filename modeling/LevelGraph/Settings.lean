import LevelGraph.Files.Fault
import LevelGraph.Files.Path
import LevelGraph.Json.Reader
import LevelGraph.Json.Writer
import LevelGraph.LogLevel

/-!
# Settings of a session

Settings are a JSON object with three members, each of which may be left out: the log
level, the directory for logs, and the path of the store. Other members are refused.
Settings are usable when the directory for logs, if there is one, is an absolute path
and the path of the store is not empty; the directory is looked at first.
-/

namespace LevelGraph

/-- What a session is told when it starts. -/
structure Settings where
  /-- How much is logged. -/
  logLevel : LogLevel
  /-- Where logs are kept; nothing is logged without it. -/
  logDirectory : Option String
  /-- The path of the store. -/
  storePath : String
  deriving DecidableEq

/-- Why settings are refused. -/
inductive SettingsError where
  /-- The file cannot be read. -/
  | unreadable (path : String) (fault : FileFault)
  /-- The text is no settings object. -/
  | malformed (fault : Json.Fault)
  /-- The directory for logs is no absolute path. -/
  | relativeLogDirectory (directory : String)
  /-- The path of the store is empty. -/
  | emptyStorePath
  deriving DecidableEq

/-- What is wrong, in words. -/
def SettingsError.message : SettingsError → String
  | .unreadable path fault => "failed to read config `" ++ path ++ "`: " ++ fault.message
  | .malformed fault => "invalid config: " ++ fault.message
  | .relativeLogDirectory directory => "log_dir must be absolute, got `" ++ directory ++ "`"
  | .emptyStorePath => "store_path must not be empty"

namespace Settings

/-- The settings of a session that is told nothing. -/
def standard : Settings := ⟨LogLevel.standard, none, "xle_level.sqlite3"⟩

/-- Whether two settings ask for the same. Paths are compared by what they amount to. -/
def same (first second : Settings) : Bool :=
  first.logLevel == second.logLevel &&
    first.logDirectory.map Path.parts == second.logDirectory.map Path.parts &&
    Path.same first.storePath second.storePath

/-- Settings as their text. -/
def write (settings : Settings) : List Char :=
  Json.writeObject [("log_level", Json.quote settings.logLevel.name),
    ("log_dir", Json.writeOption Json.quote settings.logDirectory),
    ("store_path", Json.quote settings.storePath)]

/-- The text of settings. -/
def text (settings : Settings) : String := String.ofList settings.write

/-- What has been read of settings so far. -/
structure Draft where
  /-- The level, once read. -/
  logLevel : Option LogLevel
  /-- The directory for logs, once read. -/
  logDirectory : Option (Option String)
  /-- The path of the store, once read. -/
  storePath : Option String

/-- A draft needs nothing more; what was not read is as in the standard settings. -/
def Draft.complete (draft : Draft) : Settings :=
  ⟨draft.logLevel.getD standard.logLevel, draft.logDirectory.getD standard.logDirectory,
    draft.storePath.getD standard.storePath⟩

/-- The fields of settings that have opened their bracket, with the room left inside. -/
def fields (room : Nat) : List (Json.Field Draft) :=
  [ { name := "log_level", required := false, taken := fun draft => draft.logLevel.isSome,
      read := fun draft => Json.readInto (Json.readChoice room LogLevel.ofName?) fun level =>
        { draft with logLevel := some level } },
    { name := "log_dir", required := false, taken := fun draft => draft.logDirectory.isSome,
      read := fun draft => Json.readInto (Json.readOption Json.readString) fun directory =>
        { draft with logDirectory := some directory } },
    { name := "store_path", required := false, taken := fun draft => draft.storePath.isSome,
      read := fun draft => Json.readInto Json.readString fun path =>
        { draft with storePath := some path } } ]

/-- Read settings without a look at what they ask for. -/
def reader (room : Nat) : Json.Reader Settings :=
  Json.readStruct room true (fields (room - 1)) ⟨none, none, none⟩ fun draft =>
    some draft.complete

/-- Refuse settings that are not usable. -/
def validate (settings : Settings) : Except SettingsError Unit :=
  match settings.logDirectory.filter fun directory => !Path.isAbsolute directory with
  | some directory => .error (.relativeLogDirectory directory)
  | none => if settings.storePath = "" then .error .emptyStorePath else .ok ()

/-- Read usable settings from their text. -/
def ofText (text : String) : Except SettingsError Settings :=
  match Json.read (reader Json.maxDepth) text with
  | .error fault => .error (.malformed fault)
  | .ok settings =>
    match settings.validate with
    | .error error => .error error
    | .ok () => .ok settings

/-- Usable settings from what reading their file gave. -/
def ofFile (path : String) (content : Except FileFault String) : Except SettingsError Settings :=
  match content with
  | .error fault => .error (.unreadable path fault)
  | .ok text => ofText text

end Settings

end LevelGraph
