import LevelGraph.Store.Address
import LevelGraph.Store.Connection

/-!
# Making and ending connections

A store engine finds the file of an address in a way of its own: it cancels `..` against the
name in front of it before it looks, and takes no notice of a slash at the end. Beside the store
it wants room for the store's journal, a file with a longer path.

Opening a store replaces the connection that there was when it succeeds; when it fails, the old
connection stays, though a missing file has been made. A connection that ends leaves the ledger
of its store.

A store in memory ends with its last connection. A connection that is made to a shared store
while another one lasts goes on with all that the other one has.
-/

namespace LevelGraph

namespace FileTree

/-- Whether a name under a place cannot be looked up: it is too long for the directory
there, or what is there is no directory. -/
def blocked (tree : FileTree) (place : Place) (name : String) : Bool :=
  match tree.entry? place with
  | some .directory => name.length > maxNameBytes
  | none => false
  | some _ => true

/-- The number of bytes that the path of a store and of the files beside it may have. -/
def maxStorePathBytes : Nat := 512

/-- The place that a store engine takes names for. It cancels `..` against the name in front of
it before it looks. -/
def storePlace? (tree : FileTree) : Place → List String → Option Place
  | place, [] => some place
  | place, name :: rest =>
    if name = "." then tree.storePlace? place rest
    else if name = ".." then tree.storePlace? place.dropLast rest
    else if tree.blocked place name then none
    else if (place ++ [name]).text.length ≥ maxStorePathBytes then none
    else tree.storePlace? (place ++ [name]) rest

/-- The place of a store whose journal has room for its path. A slash at the end counts for
nothing. -/
def storePlaceOf? (tree : FileTree) (path : String) : Option Place :=
  (tree.storePlace? (tree.start path) (Path.names path)).filter fun place =>
    place ≠ [] && place.text.length + StoreFile.journalEnding.length ≤ maxStorePathBytes

/-- Whether an address asks for the rights of a file that is not there. -/
def lacksModel (tree : FileTree) (address : StoreAddress) : Bool :=
  match (address.option? "modeof").map tree.find with
  | some (.error _) => true
  | _ => false

/-- What an address has to say about a file at a place that is open. -/
def holding (tree : FileTree) (address : StoreAddress) (place : Place) : StoreFile :=
  let handle : StoreHandle :=
    { place := place
      guard := .ofLayer address.layer?
      lockless := address.asksFor "nolock"
      readOnly := address.isReadOnly
      watch := .alert
      sealed := false
      inLedger := false
      ledgerMet := false
      contended := false
      stamp := FileStamp.blank
      page := none
      parted := none }
  let file : StoreFile := ⟨tree, handle⟩
  if address.isFrozen then
    let found := if file.isEmpty then some (.ok StoreContent.blank) else none
    { file with handle := { handle with watch := .trusting found } }
  else file

/-- Open the store file at a place. A missing one is made where its directory is there. -/
def openStoreAt (tree : FileTree) (address : StoreAddress) (place : Place) (text : String) :
    Except EngineFault StoreFile :=
  if tree.lacksModel address then .error .unreadable
  else if !tree.isDirectoryAt place.dropLast then .error (.cannotOpen text)
  else
    match tree.entry? place with
    | none =>
      if address.mode = .create then .ok ((tree.put place (.bytes [])).holding address place)
      else .error (.cannotOpen text)
    | some .directory =>
      if address.mode = .readOnly then .error .unreadable else .error (.cannotOpen text)
    | some _ => .ok (tree.holding address place)

end FileTree

/-- Whether a connection keeps changes in the ledger of the store at a place. -/
def Connection.keepsLedger (connection : Connection) (place : Place) : Bool :=
  match connection.target with
  | .file handle => handle.inLedger && handle.place = place
  | .memory .. => false

/-- The files once a connection has ended that another one outlasts. -/
def Connection.ended (connection survivor : Connection) (tree : FileTree) : FileTree :=
  match connection.target with
  | .file handle => StoreFile.close ⟨tree, handle⟩ (survivor.keepsLedger handle.place)
  | .memory .. => tree

/-- A connection once the files have changed. It goes on with its file where that has lost
its place. -/
def Connection.within (connection : Connection) (tree : FileTree) : Connection :=
  match connection.target with
  | .memory .. => connection
  | .file handle =>
    if handle.parted.isNone && (tree.entry? handle.place).isNone then
      let parted := tree.removed.find? handle.place.text
      { connection with target := .file { handle with parted := parted } }
    else connection

/-- A connection without another one. -/
def Connection.alone (connection : Connection) : Connection :=
  match connection.target with
  | .memory .. => connection
  | .file handle => { connection with target := .file { handle with contended := false } }

/-- A new connection beside the one that lasts. -/
structure Contact where
  /-- The files with the new connection. -/
  links : Connections
  /-- Whether it shares everything with the old one. -/
  shared : Bool

namespace Connections

/-- Whether a name is the one that the connection shares everything by. -/
def shares (links : Connections) (name : Option (String × String)) : Bool :=
  name.isSome && links.current.sharedAs == name

/-- A new connection to a store in memory. -/
def reachMemory (links : Connections) (address : StoreAddress) : Connections :=
  let name := address.memoryName?
  let blank := StoreContent.blank
  let content :=
    match links.current.target with
    | .memory content _ =>
      if name.isSome && links.current.memoryName == name then content else blank
    | .file _ => blank
  let connection := Connection.to (.memory content address.isReadOnly)
  { links with
    current := { connection with sharedAs := address.sharedName? none, memoryName := name } }

/-- A new connection to a store file. -/
def reachFile (links : Connections) (address : StoreAddress) (place : Place) (text : String) :
    Except EngineFault Connections :=
  match links.tree.openStoreAt address place text with
  | .error fault => .error fault
  | .ok file =>
    let contended := file.handle.guard.goesWithFile && !file.handle.lockless &&
      links.current.keepsLedger place
    let connection := Connection.to (.file { file.handle with contended := contended })
    .ok ⟨file.tree, { connection with sharedAs := address.sharedName? (some place.text) }⟩

/-- The number of bytes that the path of a store file in memory may have. -/
def maxMemoryPathBytes : Nat := 1016

/-- Connect to an address, given with its text. -/
def reachAddress (links : Connections) (address : StoreAddress) (text : String) :
    Except EngineFault Contact :=
  if address.livesInMemory then
    if address.isMemoryFile && address.path.length > maxMemoryPathBytes then
      .error (.cannotOpen text)
    else if links.shares (address.sharedName? none) then .ok ⟨links, true⟩
    else .ok ⟨links.reachMemory address, false⟩
  else
    match links.tree.storePlaceOf? address.path with
    | none => .error (.cannotOpen text)
    | some place =>
      if links.shares (address.sharedName? (some place.text)) then .ok ⟨links, true⟩
      else (links.reachFile address place text).map fun reached => ⟨reached, false⟩

/-- Connect to the address that a text is. -/
def reach (links : Connections) (text : String) : Except EngineFault Contact :=
  match text.toList.findIdx? (· == '\x00') with
  | some index => .error (.nulInPath (String.ofList (text.toList.take index)).utf8ByteSize)
  | none =>
    match StoreAddress.ofText text with
    | .error fault => .error fault
    | .ok address => links.reachAddress address text

/-- The new connection takes the place of the old one, which ends. -/
def replaced (links : Connections) (contact : Contact) : Connections :=
  if contact.shared then contact.links
  else
    let reached := contact.links
    let old := links.current.within reached.tree
    let tree := old.ended reached.current reached.tree
    ⟨tree, (reached.current.within tree).alone⟩

/-- The old connection stays, and the new one ends. -/
def kept (links : Connections) (contact : Contact) : Connections :=
  if contact.shared then contact.links
  else
    let tree := contact.links.current.ended links.current contact.links.tree
    ⟨tree, links.current.within tree⟩

/-- Connect to an address and do nothing else. -/
def attach (links : Connections) (address : String) : Except EngineFault Connections :=
  (links.reach address).map links.replaced

/-- Open the store of an address. -/
def openPath (links : Connections) (address : String) : ConnectionOpening :=
  match links.reach address with
  | .error fault => ⟨.error (.engine fault), links, unreachableEvents "file" fault⟩
  | .ok contact =>
    let opening := contact.links.migrate
    let contact := { contact with links := opening.after }
    let events := openingEvents "file" opening.result opening.events
    match opening.result with
    | .ok () => ⟨.ok (), links.replaced contact, events⟩
    | .error error => ⟨.error error, links.kept contact, events⟩

/-- Open a store in memory. -/
def openMemory (links : Connections) : ConnectionOpening :=
  let opening := (start links.tree).migrate
  let events := openingEvents "memory" opening.result opening.events
  ⟨opening.result, links.replaced ⟨opening.after, false⟩, events⟩

/-- Put bytes into a file. -/
def writeFile (links : Connections) (path : String) (content : List UInt8) :
    Except FileFault Connections :=
  (links.tree.writeBytes path content).map fun tree => { links with tree := tree }

end Connections

end LevelGraph
