import LevelGraph.Text.Blank

/-!
# Log levels

Five levels from the most to the least talkative. A level set for a log admits the
events of that level and of every less talkative one. People may write a level with
blanks around it and in capitals, and may write `warning` for `warn`.
-/

namespace LevelGraph

/-- How much a log says, and how much an event matters. -/
inductive LogLevel where
  /-- Everything. -/
  | trace
  /-- What helps to find a fault. -/
  | debug
  /-- What happened. -/
  | info
  /-- What went wrong without stopping anything. -/
  | warn
  /-- What failed. -/
  | error
  deriving DecidableEq

namespace LogLevel

/-- The level's name. -/
def name : LogLevel → String
  | trace => "trace"
  | debug => "debug"
  | info => "info"
  | warn => "warn"
  | error => "error"

/-- The level's name as it heads a log line. -/
def label : LogLevel → String
  | trace => "TRACE"
  | debug => "DEBUG"
  | info => "INFO"
  | warn => "WARN"
  | error => "ERROR"

/-- The place of the level on the scale, the most talkative first. -/
def rank : LogLevel → Nat
  | trace => 0
  | debug => 1
  | info => 2
  | warn => 3
  | error => 4

/-- Whether a log of this level keeps events of another. -/
def admits (level event : LogLevel) : Bool := level.rank ≤ event.rank

/-- The level of an exact name. -/
def ofName? (name : String) : Option LogLevel :=
  if name = "trace" then some trace
  else if name = "debug" then some debug
  else if name = "info" then some info
  else if name = "warn" ∨ name = "warning" then some warn
  else if name = "error" then some error
  else none

/-- A level's name as people write it, brought to its exact form. -/
def normalizeName (written : String) : String := Text.lowerAscii (Text.trim written)

/-- The level unless another is asked for. -/
def standard : LogLevel := debug

end LogLevel

end LevelGraph
