import LevelGraph.LogLevel

/-!
# The journal of events

Every operation reports what it did as events, in order. An event becomes one line of
`key=value` pairs that starts with its name, its part of the program and its outcome.
Lines name locations, counts and error texts; the values of node attributes other
than a location never enter an event.

How long an opening took is known only outside, so `line` takes it as an argument.
-/

namespace LevelGraph

/-- Something worth a line in a log. -/
inductive Event where
  /-- A schema and its property editors are ready. -/
  | schemaLoaded (targetNamespace : String) (types editors : Nat)
  /-- A store is about to be opened. -/
  | storeOpening (mode : String)
  /-- A store is open and its layout is current. -/
  | storeOpened (mode : String)
  /-- A store could not be opened, with the code of the stage that failed. -/
  | storeOpenFailed (mode stage error : String)
  /-- The layout of a store was brought up to date. -/
  | migrated (fromVersion toVersion : Int)
  /-- A layout step failed and left the store as it was. -/
  | migrationFailed (version : Nat) (name error : String)
  /-- A stored document was opened. -/
  | documentOpened (location : String) (nodes : Nat)
  /-- A document was stored. -/
  | documentSaved (location : String) (nodes : Nat)
  /-- A document could not be stored. -/
  | documentSaveFailed (location error : String)
  /-- A document was closed. -/
  | documentClosed (location : String)
  /-- A cell reference got its target. -/
  | cellResolved (location : String)
  /-- A cell reference of a sweep got no target. -/
  | cellUnresolved (location : Option String) (error : String)
  /-- A load sweep ended. -/
  | loadSwept (attempted resolved failed : Nat)
  /-- A resolved cell reference of a save sweep declares no location. -/
  | cellWithoutLocation
  /-- A save sweep ended. -/
  | saveSwept (saved skipped failed : Nat)
  /-- File logging started. -/
  | loggingStarted (level : LogLevel) (directory : String)
  /-- A crash was caught, with its place and its sanitized payload. -/
  | crashCaptured (place payload : String)
  /-- A run from the command line failed. -/
  | runFailed (error : String)
  deriving DecidableEq

/-- The version of this program. -/
def version : String := "0.1.0"

namespace Event

/-- How much an event matters. -/
def level : Event → LogLevel
  | storeOpenFailed .. | migrationFailed .. | crashCaptured .. | runFailed .. => .error
  | documentSaveFailed .. | cellUnresolved .. | cellWithoutLocation => .warn
  | _ => .info

/-- The part of the program that a log names as the origin of an event. -/
def origin : Event → String
  | schemaLoaded .. => "xle_level_core::host"
  | storeOpening .. | storeOpened .. | storeOpenFailed .. => "xle_level_core::db::open"
  | migrated .. | migrationFailed .. => "xle_level_core::db::migrations"
  | documentOpened .. | documentSaved .. | documentSaveFailed .. | documentClosed .. |
    cellResolved .. => "xle_level_core::service::document_service"
  | cellUnresolved .. | loadSwept .. | cellWithoutLocation | saveSwept .. =>
    "xle_level_core::service::reference_service"
  | loggingStarted .. | crashCaptured .. => "xle_level_core::logging"
  | runFailed .. => "xle_level_cli"

/-- The location that an event says was saved to, successfully or not. -/
def savedAt? : Event → Option String
  | documentSaved location _ | documentSaveFailed location _ => some location
  | _ => none

/-- The line of an event, given how many milliseconds an opening took. -/
def line (elapsed : String) : Event → String
  | schemaLoaded targetNamespace types editors =>
    "event=schema_loaded module=host status=ok namespace=" ++ targetNamespace ++ " types=" ++
      toString types ++ " property_editors=" ++ toString editors
  | storeOpening mode => "event=db_open module=db status=start mode=" ++ mode
  | storeOpened mode =>
    "event=db_open module=db status=ok mode=" ++ mode ++ " duration_ms=" ++ elapsed
  | storeOpenFailed mode stage error =>
    "event=db_open module=db status=error mode=" ++ mode ++ " duration_ms=" ++ elapsed ++
      " error_code=" ++ stage ++ " error=" ++ error
  | migrated fromVersion toVersion =>
    "event=db_migrate module=db status=ok from_version=" ++ toString fromVersion ++
      " to_version=" ++ toString toVersion
  | migrationFailed version name error =>
    "event=db_migrate module=db status=error version=" ++ toString version ++ " name=" ++ name ++
      " error=" ++ error
  | documentOpened location nodes =>
    "event=document_open module=document status=ok location=" ++ location ++ " nodes=" ++
      toString nodes
  | documentSaved location nodes =>
    "event=document_save module=document status=ok location=" ++ location ++ " nodes=" ++
      toString nodes
  | documentSaveFailed location error =>
    "event=document_save module=document status=error location=" ++ location ++ " error=" ++ error
  | documentClosed location => "event=document_close module=document status=ok location=" ++ location
  | cellResolved location => "event=cell_resolve module=document status=ok location=" ++ location
  | cellUnresolved location error =>
    "event=cell_resolve module=reference status=error location=" ++ location.getD "<none>" ++
      " error=" ++ error
  | loadSwept attempted resolved failed =>
    "event=resolve_on_load module=reference status=ok attempted=" ++ toString attempted ++
      " resolved=" ++ toString resolved ++ " failed=" ++ toString failed
  | cellWithoutLocation =>
    "event=cell_save module=reference status=error error_code=missing_location"
  | saveSwept saved skipped failed =>
    "event=save_referenced module=reference status=ok saved=" ++ toString saved ++ " skipped=" ++
      toString skipped ++ " failed=" ++ toString failed
  | loggingStarted level directory =>
    "event=logging_init module=logging status=ok level=" ++ level.name ++ " log_dir=" ++ directory ++
      " version=" ++ version
  | crashCaptured place payload =>
    "event=panic_captured module=logging status=error location=" ++ place ++ " payload=" ++ payload
  | runFailed error => "event=cli_run module=cli status=error error=" ++ error

end Event

end LevelGraph
