import LevelGraph.CommandLine
import LevelGraph.Store.Address
import LevelGraph.Store.Image

/-!
# The command line

This module only carries out what a run asks for: it reads the settings file, makes the
directory for logs and the log, reads the store from its image and writes it back, prints,
and fills the log. Everything else is decided by `CommandLine.run`.
-/

namespace LevelGraph.CommandLine

/-- What a failed operation on a path reports. -/
def faultOf : IO.Error → FileFault
  | .noFileOrDirectory .. => .notFound
  | .alreadyExists .. => .alreadyExists
  | .inappropriateType _ code _ => if code = 21 then .isADirectory else .notADirectory
  | error => .other (toString error)

/-- Read a file of text. -/
def readTextFile (path : String) : IO (Except FileFault String) :=
  try
    let bytes ← IO.FS.readBinFile path
    match Text.decodeUtf8 bytes.toList with
    | .ok text => return .ok text
    | .error _ => return .error .notText
  catch error => return .error (faultOf error)

/-- Make a directory and what is missing on the way to it. -/
def makeDirectory (path : String) : IO (Except FileFault Unit) :=
  try
    IO.FS.createDirAll path
    return .ok ()
  catch error => return .error (faultOf error)

/-- Connect to the store whose image is in a file, given with the address and its text. A
missing file is a new store where the address lets it be made and it can be written. -/
def connectFile (address : StoreAddress) (path text : String) :
    IO (Except EngineFault Connected) := do
  match ← readTextFile path with
  | .ok content =>
    if content.isEmpty then return .ok (.database Database.fresh address.lock)
    match Database.ofImage content with
    | .ok db => return .ok (.database db address.lock)
    | .error _ => return .ok (.failing .notADatabase)
  | .error .notFound =>
    unless address.mode = .create do return .error (.cannotOpen text)
    try
      IO.FS.writeFile path ""
      return .ok (.database Database.fresh address.lock)
    catch _ => return .error (.cannotOpen text)
  | .error .notText => return .ok (.failing .notADatabase)
  | .error _ => return .error (.cannotOpen text)

/-- Connect to the store of an address. -/
def connectImage (text : String) : IO (Except EngineFault Connected) :=
  match StoreAddress.ofText text with
  | .error fault => return .error fault
  | .ok address =>
    if address.livesInMemory then return .ok (.database Database.fresh address.lock)
    else
      match Text.decodeUtf8 (Path.bytes address.path) with
      | .ok path => connectFile address path text
      | .error _ => return .error (.cannotOpen text)

/-- Keep the image of a store in the file of an address, where there is one. -/
def keepImage (text : String) (db : Database) : IO Unit :=
  match StoreAddress.ofText text, db.image? with
  | .ok address, some image => do
    if let .ok path := Text.decodeUtf8 (Path.bytes address.path) then
      unless address.livesInMemory || address.lock.isSome do
        IO.FS.writeFile path image
  | _, _ => return ()

/-- Add lines to the log once there are events for it. A log that cannot be written is done
without. -/
def writeLog (logging : Logging) (events : List Event) (lines : List String) : IO Unit := do
  if let some (_, directory) := logging.active then
    unless (logging.kept events).isEmpty do
      try
        IO.FS.withFile (logPath directory) .append fun file => do
          for line in lines do
            file.putStrLn line
      catch _ => return ()

/-- The line of an event in the log. -/
def logLine (elapsed : Nat) (event : Event) : String :=
  event.level.label ++ " [" ++ event.origin ++ "] " ++ event.line (toString elapsed)

/-- The world around a run. -/
def world : Surroundings IO where
  readText := readTextFile
  makeDirectory := makeDirectory
  makeLog logging events := writeLog logging events []
  connect := connectImage
  keepStore := keepImage

/-- Identifiers that follow on from a random one. -/
def randomSupply : IO IdSupply := do
  let first ← IO.rand 0 (1 <<< 122)
  return ⟨fun turn => Uuid.ofNat (first + turn), 0⟩

end LevelGraph.CommandLine

open LevelGraph LevelGraph.CommandLine in
/-- Run the program. -/
def main (args : List String) : IO UInt32 := do
  let begun ← IO.monoMsNow
  let result ← run world (← randomSupply) args
  let elapsed := (← IO.monoMsNow) - begun
  for line in result.output do
    IO.println line
  for line in result.complaints do
    IO.eprintln line
  writeLog result.logging result.events
    ((result.logging.kept result.events).map (logLine elapsed))
  return result.code.toUInt32
