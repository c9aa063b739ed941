import LevelGraph.Files.Path
import LevelGraph.Store.Database
import LevelGraph.Text.Percent

/-!
# Addresses of stores

A store is named by the path of its file or by an address. An address starts with `file:`
and may go on with two slashes and the name of a machine, which has to be the local one.
Then comes the path, and behind a question mark options: names with values, `=` between
the two and `&` between one option and the next. What stands behind a `#` counts for nothing.
Path, names and values may be written with percent signs, and a zero byte written in that
way ends the one that it stands in. They are raw, since they need not spell texts. An option
without a name counts for nothing.

The options `mode` and `cache` are taken up in order, and a later mode may not ask for more
than the earlier ones left. `vfs` names the layer that keeps the files, and the last one
counts. Of every other option the first one counts.
-/

namespace LevelGraph

/-- What a connection may do to a store. -/
inductive StoreMode where
  /-- Read it. -/
  | readOnly
  /-- Read and write it. -/
  | existing
  /-- Read and write it, and make it where it is missing. -/
  | create
  /-- Keep it in memory only. -/
  | memory
  deriving DecidableEq

namespace StoreMode

/-- The mode of a name. -/
def ofName? (name : String) : Option StoreMode :=
  if name = "ro" then some readOnly
  else if name = "rw" then some existing
  else if name = "rwc" then some create
  else if name = "memory" then some memory
  else none

/-- How much a mode asks of a file. -/
def demand : StoreMode → Nat
  | memory => 0
  | readOnly => 1
  | existing => 2
  | create => 3

/-- Whether a mode may be narrowed to another. A store in memory has nothing to protect. -/
def allows (mode wanted : StoreMode) : Bool :=
  mode = memory || wanted.demand ≤ mode.demand

end StoreMode

/-- An address of a store. -/
structure StoreAddress where
  /-- The raw path. -/
  path : String
  /-- What the connection may do. -/
  mode : StoreMode
  /-- Whether connections to one store share what they have read of it. -/
  shared : Bool
  /-- All options in order. -/
  options : List (String × String)
  deriving DecidableEq

namespace StoreAddress

/-- The address that a mere path is. -/
def ofFilePath (path : String) : StoreAddress := ⟨Path.raw path, .create, false, []⟩

/-- A path, a name or a value, as it is meant. -/
def sectionText (bytes : List UInt8) : String :=
  Path.ofBytes ((Text.unescapePercent bytes).takeWhile (· ≠ 0))

/-- A value as a text for a person. -/
def shown (value : String) : String := Text.showBytes (Path.bytes value)

/-- The pieces between separators. -/
def splitBytes (separator : UInt8) : List UInt8 → List (List UInt8)
  | [] => [[]]
  | byte :: rest =>
    if byte = separator then [] :: splitBytes separator rest
    else
      match splitBytes separator rest with
      | [] => [[byte]]
      | piece :: later => (byte :: piece) :: later

/-- What stands in front of a byte, and what behind it. -/
def cutAtByte (mark : UInt8) (bytes : List UInt8) : List UInt8 × List UInt8 :=
  (bytes.takeWhile (· ≠ mark), (bytes.dropWhile (· ≠ mark)).drop 1)

/-- The name and the value of an option. -/
def readOption (bytes : List UInt8) : String × String :=
  let (name, value) := cutAtByte 0x3D bytes
  (sectionText name, sectionText value)

/-- The options that have a name. -/
def readOptions (bytes : List UInt8) : List (String × String) :=
  ((splitBytes 0x26 bytes).map readOption).filter fun option => option.1 ≠ ""

/-- Take up an option. -/
def takeUp (address : StoreAddress) (option : String × String) : Except EngineFault StoreAddress :=
  if option.1 = "cache" then
    if option.2 = "shared" then .ok { address with shared := true }
    else if option.2 = "private" then .ok { address with shared := false }
    else .error (.noSuchMode "cache" (shown option.2))
  else if option.1 = "mode" then
    match StoreMode.ofName? option.2 with
    | none => .error (.noSuchMode "access" (shown option.2))
    | some wanted =>
      if address.mode.allows wanted then .ok { address with mode := wanted }
      else .error (.modeNotAllowed "access" (shown option.2))
  else .ok address

/-- Take up options in order. -/
def takeUpAll : List (String × String) → StoreAddress → Except EngineFault StoreAddress
  | [], address => .ok address
  | option :: rest, address =>
    match address.takeUp option with
    | .error fault => .error fault
    | .ok changed => takeUpAll rest changed

/-- The layer that keeps the files. -/
def layer? (address : StoreAddress) : Option String :=
  (address.options.filter fun option => option.1 = "vfs").getLast?.map (·.2)

/-- The layer that keeps files in memory. -/
def memoryLayer : String := "memdb"

/-- The layer that keeps files where no other is named. -/
def usualLayer : String := "unix"

/-- The layers that there are. -/
def layers : List String := [usualLayer, "unix-none", "unix-dotfile", "unix-excl", memoryLayer]

/-- Refuse an address that names an unknown layer. -/
def checkLayer (address : StoreAddress) : Except EngineFault StoreAddress :=
  match address.layer? with
  | none => .ok address
  | some name => if layers.contains name then .ok address else .error (.noSuchLayer (shown name))

/-- What follows the name of the machine, if the address has one. -/
def behindMachine (bytes : List UInt8) : Except EngineFault (List UInt8) :=
  match bytes with
  | 0x2F :: 0x2F :: rest =>
    let machine := rest.takeWhile (· ≠ 0x2F)
    if machine = [] ∨ machine = "localhost".toUTF8.toList then .ok (rest.dropWhile (· ≠ 0x2F))
    else .error (.invalidAuthority (Text.showBytes machine))
  | _ => .ok bytes

/-- Read what follows `file:`. -/
def read (bytes : List UInt8) : Except EngineFault StoreAddress :=
  match behindMachine bytes with
  | .error fault => .error fault
  | .ok rest =>
    let (path, options) := cutAtByte 0x3F (cutAtByte 0x23 rest).1
    let listed := readOptions options
    match takeUpAll listed ⟨sectionText path, .create, false, listed⟩ with
    | .error fault => .error fault
    | .ok address => address.checkLayer

/-- The address that a text names. -/
def ofText (text : String) : Except EngineFault StoreAddress :=
  if text.startsWith "file:" then read (text.toUTF8.toList.drop 5) else .ok (ofFilePath text)

/-- The value of an option. -/
def option? (address : StoreAddress) (name : String) : Option String := address.options.lookup name

/-- The number that digits spell, zero where it does not fit thirty-one bits. -/
def smallNumber (base : Nat) (digits : List Nat) : Nat :=
  let number := digits.foldl (fun read digit => read * base + digit) 0
  if number < 0x80000000 then number else 0

/-- The values of the digits at the front of a text. -/
def frontDigits (value? : Char → Option Nat) : List Char → List Nat
  | [] => []
  | char :: rest =>
    match value? char with
    | some digit => digit :: frontDigits value? rest
    | none => []

/-- The value of a decimal digit. -/
def decimalValue? (char : Char) : Option Nat :=
  if char.isDigit then some (char.toNat - 48) else none

/-- The number at the front of a text that starts with a digit, perhaps a hexadecimal one. -/
def frontNumber (text : List Char) : Nat :=
  match text with
  | '0' :: mark :: digits =>
    if (mark = 'x' || mark = 'X') && !(frontDigits Text.hexValue? digits).isEmpty then
      smallNumber 16 (frontDigits Text.hexValue? digits)
    else smallNumber 10 (frontDigits decimalValue? text)
  | _ => smallNumber 10 (frontDigits decimalValue? text)

/-- Whether the value of an option means yes: a number other than zero, modulo the numbers of
a byte, or one of three words in any case. -/
def meansYes (value : String) : Bool :=
  if (value.toList.head?.any Char.isDigit) then frontNumber value.toList % 256 ≠ 0
  else ["on", "yes", "true"].contains (value.map Char.toLower)

/-- Whether an option is there and means yes. -/
def asksFor (address : StoreAddress) (name : String) : Bool :=
  ((address.option? name).map meansYes).getD false

/-- Whether the store is no file of its own: a passing one, or one in memory by its mode
or by its name. -/
def isPassing (address : StoreAddress) : Bool :=
  address.path = "" || address.path = ":memory:" || address.mode = .memory

/-- Whether the store is a file that a layer keeps in memory. -/
def isMemoryFile (address : StoreAddress) : Bool :=
  !address.isPassing && address.layer? = some memoryLayer

/-- Whether the store lives in memory only. -/
def livesInMemory (address : StoreAddress) : Bool :=
  address.isPassing || address.isMemoryFile

/-- Whether the file is taken to stay as it is. -/
def isFrozen (address : StoreAddress) : Bool := !address.isPassing && address.asksFor "immutable"

/-- Whether the address forbids writing. A file that is called immutable is not written to. -/
def isReadOnly (address : StoreAddress) : Bool := address.mode = .readOnly || address.isFrozen

/-- Why the address forbids writing, if it does. -/
def lock (address : StoreAddress) : Option EngineFault :=
  if address.isReadOnly then some .readOnly else none

/-- The name under which connections find one store as long as one of them lasts: that of a
file in memory with an absolute path. -/
def memoryName? (address : StoreAddress) : Option String :=
  if address.isMemoryFile && (address.path.startsWith "/" || address.path.startsWith "\\") &&
      address.path.length > 1 then
    some address.path
  else none

/-- What connections to one store share everything by, if the address asks for it: the layer
and the path, which is that of the file, given with its place, or the one that is written. -/
def sharedName? (address : StoreAddress) (place : Option String) : Option (String × String) :=
  if address.shared && address.path ≠ "" then
    some (address.layer?.getD usualLayer, place.getD address.path)
  else none

end StoreAddress

end LevelGraph
