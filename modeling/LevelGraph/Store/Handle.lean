import LevelGraph.Files.Tree

/-!
# Open store files

A store file that is open may change under the connection that has it open, since files are
files. Before every statement the connection looks at the files again: first for a journal,
which somebody may have left in the middle of a change, then at the stamp of the file, then for
a ledger. What it has read of the file before stays good as long as the stamp is the same, even
where the file is another one.

A journal guards a change and is there as long as the change lasts. A ledger takes up changes
that reach the file later; the last connection that leaves a ledger takes them up into the file
and removes the ledger. Journal, ledger, the index of the ledger and the directory that some
connections make for a lock lie beside the file under longer names.

A file that is taken to be frozen is looked at only once.
-/

namespace LevelGraph

/-- How a connection keeps others away from its file. -/
inductive FileGuard where
  /-- By locks that go with the file. -/
  | locks
  /-- By locks, and nobody else may use the file. -/
  | soleUse
  /-- By a directory beside the file. -/
  | lockDirectory
  /-- Not at all. -/
  | nothing
  deriving DecidableEq

namespace FileGuard

/-- The guard of the layer of an address. -/
def ofLayer (layer : Option String) : FileGuard :=
  if layer = some "unix-none" then nothing
  else if layer = some "unix-dotfile" then lockDirectory
  else if layer = some "unix-excl" then soleUse
  else locks

/-- Whether the locks go with the file itself, so that a file is known when it is met again. -/
def goesWithFile : FileGuard → Bool
  | locks | soleUse => true
  | lockDirectory | nothing => false

end FileGuard

/-- Whether a connection minds that its file may change. -/
inductive Watch where
  /-- It looks before it reads. -/
  | alert
  /-- It takes the file to stay as it was found, once it has been found. -/
  | trusting (found : Option (Except EngineFault StoreContent))

/-- What a connection knows of the file that it has open. -/
structure StoreHandle where
  /-- The place of the file. -/
  place : Place
  /-- How the file is guarded. -/
  guard : FileGuard
  /-- Whether the guard is switched off. -/
  lockless : Bool
  /-- Whether the file is open for reading only. -/
  readOnly : Bool
  /-- Whether the connection looks before it reads. -/
  watch : Watch
  /-- Whether a head has forbidden to write. -/
  sealed : Bool
  /-- Whether changes go to the ledger. -/
  inLedger : Bool
  /-- Whether the connection has met changes in the ledger. -/
  ledgerMet : Bool
  /-- Whether another connection holds on to the file, because it uses the ledger. -/
  contended : Bool
  /-- The stamp as it was last read or written. -/
  stamp : FileStamp
  /-- The first page as it was last read or written. -/
  page : Option StoreHead
  /-- What the file holds if it is no longer to be found at its place. -/
  parted : Option FileEntry

/-- A store file that is open, with the files around it. -/
structure StoreFile where
  /-- The files. -/
  tree : FileTree
  /-- The open file. -/
  handle : StoreHandle

/-- Something done with an open store file. What a failure has changed stays changed. -/
abbrev StoreAction := ExceptT EngineFault (StateM StoreFile)

namespace StoreFile

/-- The ending of a journal. -/
def journalEnding : String := "-journal"

/-- The ending of a ledger. -/
def ledgerEnding : String := "-wal"

/-- The ending of the index of a ledger. -/
def ledgerIndexEnding : String := "-shm"

/-- The ending of the directory for a lock. -/
def lockEnding : String := ".lock"

/-- The file. -/
def entry? (file : StoreFile) : Option FileEntry :=
  match file.handle.parted with
  | some entry => some entry
  | none => file.tree.entry? file.handle.place

/-- Put something in the place of the file. -/
def putEntry (file : StoreFile) (entry : FileEntry) : StoreFile :=
  match file.handle.parted with
  | some _ => { file with handle := { file.handle with parted := some entry } }
  | none => { file with tree := file.tree.put file.handle.place entry }

/-- Whether the file has no page. A file of one byte has none. -/
def isEmpty (file : StoreFile) : Bool :=
  match file.entry? with
  | some (.bytes content) => content.length ≤ 1
  | some (.store _) | some (.ledger _) => false
  | some .directory | none => true

/-- The first page of the file. -/
def firstPage (file : StoreFile) : StoreHead :=
  match file.entry? with
  | some (.bytes content) => StoreHead.ofBytes content
  | some (.store head) => head
  | _ => StoreHead.foreign FileStamp.blank

/-- The stamp of the file, blank where the file ends within it. -/
def fileStamp (file : StoreFile) : FileStamp :=
  match file.entry? with
  | some (.bytes content) =>
    if content.length < 40 then FileStamp.blank else StoreHead.stampOf content
  | some (.store head) => head.stamp
  | _ => FileStamp.blank

/-- The name of a file beside the store. -/
def sideName (file : StoreFile) (ending : String) : String :=
  file.handle.place.getLast?.getD "" ++ ending

/-- The place of a file beside the store. -/
def sidePlace (file : StoreFile) (ending : String) : Place :=
  file.handle.place.dropLast ++ [file.sideName ending]

/-- What lies beside the store, where an empty file counts as nothing. -/
def side? (file : StoreFile) (ending : String) : Option FileEntry :=
  (file.tree.entry? (file.sidePlace ending)).filter fun
    | .bytes content => !content.isEmpty
    | _ => true

/-- Whether no file can be made or opened beside the store. -/
def sideBlocked (file : StoreFile) (ending : String) : Bool :=
  (file.sideName ending).length > FileTree.maxNameBytes ||
    file.tree.isDirectoryAt (file.sidePlace ending)

/-- Why a file cannot be made or opened beside the store, if it cannot. It gets the rights of the
store, which has to be in its place for that. -/
def sideFault (file : StoreFile) (ending : String) : Option EngineFault :=
  if (file.tree.entry? file.handle.place).isNone then some .unreadable
  else if file.sideBlocked ending then some .noSideFile
  else none

/-- Remove a file beside the store. -/
def removeSide (file : StoreFile) (ending : String) : StoreFile :=
  { file with tree := file.tree.remove (file.sidePlace ending) }

/-- Whether something is a file that begins with another byte than zero. -/
def beginsMarked : FileEntry → Bool
  | .bytes content => content.head?.any (· ≠ 0)
  | _ => true

/-- The store as it is once the changes in its ledger are taken up, if there are any. -/
def ledgerPage? (file : StoreFile) : Option StoreHead :=
  match file.side? ledgerEnding with
  | some (.ledger head) => some head
  | _ => none

/-- Why the file cannot be locked, if it cannot. -/
def lockFault (file : StoreFile) : Option EngineFault :=
  if file.handle.guard = .lockDirectory && !file.handle.lockless then
    if (file.sideName lockEnding).length > FileTree.maxNameBytes then some .unreadable
    else if (file.tree.entry? (file.sidePlace lockEnding)).isSome then some .locked
    else none
  else none

/-- Whether a change seems to be going on, so that a journal is in good hands. A connection that
makes a directory for its lock takes its own lock for that of another. -/
def seemsInUse (file : StoreFile) : Bool :=
  file.handle.guard = .lockDirectory &&
    (!file.handle.lockless || (file.tree.entry? (file.sidePlace lockEnding)).isSome)

/-- Whether the file can be locked for a change. -/
def canReserve (file : StoreFile) : Bool :=
  file.handle.lockless || !file.handle.guard.goesWithFile || !file.handle.readOnly

/-- Deal with a journal that somebody has left. That of a store without pages is removed where
that is possible. Any other is played back if it begins with a byte other than zero, and since
no engine wrote it, it is removed with no more done. -/
def settleJournal : StoreAction Unit := do
  let file ← get
  match file.side? journalEnding with
  | none => return ()
  | some entry =>
    if file.seemsInUse then return ()
    else if file.isEmpty then
      if file.canReserve && !entry.isDirectory then set (file.removeSide journalEnding)
    else if entry.isDirectory then throw .unreadable
    else if beginsMarked entry then
      if file.handle.readOnly then throw .readOnly
      if file.handle.contended then throw .locked
      set (file.removeSide journalEnding)

/-- Forget the first page if the file has another stamp. -/
def refresh (file : StoreFile) : StoreFile :=
  if file.handle.page.isSome && file.fileStamp ≠ file.handle.stamp then
    { file with handle := { file.handle with page := none } }
  else file

/-- Write changes to the ledger from now on. -/
def openLedger : StoreAction Unit := do
  let file ← get
  if file.handle.lockless || !file.handle.guard.goesWithFile then throw .noSideFile
  if let some fault := file.sideFault ledgerEnding then throw fault
  let tree :=
    if (file.tree.entry? (file.sidePlace ledgerEnding)).isSome then file.tree
    else file.tree.put (file.sidePlace ledgerEnding) (.bytes [])
  set { file with tree := tree, handle := { file.handle with inLedger := true, page := none } }

/-- The first bytes of the index of a ledger. -/
def ledgerIndexMark : List UInt8 := [0x18, 0xE2, 0x2D, 0x00]

/-- Make the index of the ledger. Who has the file for sole use keeps the index to himself. -/
def joinLedger : StoreAction Unit := do
  let file ← get
  unless file.handle.guard = .soleUse do
    if file.sideBlocked ledgerIndexEnding then throw .noSideFile
    let tree := file.tree.put (file.sidePlace ledgerIndexEnding) (.bytes ledgerIndexMark)
    set { file with tree := tree }

/-- Look for a ledger. That of a store without pages is removed, any other is used. -/
def findLedger : StoreAction Unit := do
  let file ← get
  match file.side? ledgerEnding with
  | none => return ()
  | some entry =>
    if file.isEmpty then
      if entry.isDirectory then throw .unreadable
      set (file.removeSide ledgerEnding)
    else openLedger

/-- How many pages of the size that a first page tells the file has. A store that an engine
wrote has as many as its head lays claim to. -/
def pageCount (file : StoreFile) (page : StoreHead) : Nat :=
  if file.isEmpty then 0
  else
    let size := page.pageSize.getD StoreHead.usualPageSize
    match file.entry? with
    | some (.bytes content) => (content.length + size - 1) / size
    | _ => page.claimed

/-- What a first page tells of the file, which is a fault where there are fewer pages than it
lays claim to. A file without pages may be taken for what it was before. -/
def judge (file : StoreFile) (page : StoreHead) : Except EngineFault StoreContent :=
  if file.handle.inLedger && file.handle.ledgerMet then page.content
  else if page.pageSize.isSome && page.claimed > file.pageCount page then .error .malformed
  else if file.isEmpty then .ok (page.content.toOption.getD StoreContent.blank)
  else page.content

/-- Take a first page for that of the file. -/
def keepPage (page : StoreHead) : StoreAction Unit :=
  modify fun file => { file with handle := { file.handle with
    page := some page, sealed := file.handle.sealed || page.sealed } }

/-- Read the store through its ledger. -/
def readLedgered : StoreAction StoreContent := do
  joinLedger
  let file ← get
  let page := (file.handle.page <|> file.ledgerPage?).getD file.firstPage
  keepPage page
  let met := file.handle.ledgerMet || file.ledgerPage?.isSome
  modify fun file => { file with handle := { file.handle with ledgerMet := met } }
  (← get).judge page

/-- The first page of the file, read again where it has been forgotten. -/
def recallPage : StoreAction StoreHead := do
  let file ← get
  match file.handle.page with
  | some page => return page
  | none =>
    let page := file.firstPage
    unless file.isEmpty do
      modify fun file => { file with handle := { file.handle with stamp := page.stamp } }
    keepPage page
    return page

/-- Read the store from its file, and through its ledger if the file asks for one. -/
def readPlain : StoreAction StoreContent := do
  let page ← recallPage
  if page.ledgered then
    openLedger
    readLedgered
  else (← get).judge page

/-- Read a file that is taken to be frozen. -/
def readTrusting (found : Option (Except EngineFault StoreContent)) :
    StoreAction StoreContent := do
  match found with
  | some result => result
  | none =>
    let file ← get
    let page := file.firstPage
    let result := if file.isEmpty then .error .notADatabase else file.judge page
    set { file with handle := { file.handle with watch := .trusting (some result) } }
    result

/-- Read the store. -/
def read : StoreAction StoreContent := do
  let file ← get
  match file.handle.watch with
  | .trusting found => readTrusting found
  | .alert =>
    if file.handle.inLedger then readLedgered
    else
      if let some fault := file.lockFault then throw fault
      settleJournal
      modify refresh
      findLedger
      if (← get).handle.inLedger then readLedgered else readPlain

/-- Whether nothing may be written. -/
def isReadOnly (file : StoreFile) : Bool := file.handle.readOnly || file.handle.sealed

/-- Why no page can be written, if none can. A file that is no longer at its place is known
by its locks. -/
def writeFault (file : StoreFile) : Option EngineFault :=
  if file.handle.inLedger then none
  else if file.handle.parted.isSome && !file.isEmpty && file.handle.guard.goesWithFile then
    some .readOnly
  else file.sideFault journalEnding

/-- A content as a change finds it: a store without pages begins anew. -/
def forChange (file : StoreFile) (content : StoreContent) : StoreContent :=
  if file.isEmpty && !file.handle.inLedger then StoreContent.blank else content

/-- Read the store for a change. A store without pages gets its first one at once. -/
def readForChange : StoreAction StoreContent := do
  if (← get).isReadOnly then throw .readOnly
  let content ← read
  let file ← get
  if file.isReadOnly then throw .readOnly
  if file.isEmpty then
    if let some fault := file.writeFault then throw fault
  return file.forChange content

/-- The first bytes of a journal. -/
def journalMark : List UInt8 := [0xD9, 0xD5, 0x05, 0xF9, 0x20, 0xA1, 0x63, 0xD7]

/-- The files once a change has ended, successfully or not, that had begun to write. Its journal
is gone, and so is what the journal was written over. -/
def dropJournal (file : StoreFile) : StoreFile :=
  if (file.tree.entry? (file.sidePlace journalEnding)).isNone then file
  else
    let tree := file.tree.put (file.sidePlace journalEnding) (.bytes journalMark)
    { file with tree := tree }.removeSide journalEnding

/-- The files once a change has been given up that had begun to write. What the ledger does not
take is read again. -/
def giveUp (file : StoreFile) : StoreFile :=
  if file.handle.inLedger then
    let page := file.ledgerPage?.getD file.firstPage
    { file with handle := { file.handle with page := some page } }
  else file.dropJournal

/-- Write the store. -/
def write (content : StoreContent) : StoreAction Unit := do
  let file ← get
  if let some fault := file.writeFault then throw fault
  let blank := StoreHead.foreign FileStamp.blank
  let fresh := file.isEmpty && !file.handle.inLedger
  let page := if fresh then blank else file.handle.page.getD blank
  let pages := if page.claimed > 0 then page.claimed else file.pageCount page
  if file.handle.inLedger then
    let next := page.rewritten (page.stamp.changes + 1) pages content
    let tree := file.tree.put (file.sidePlace ledgerEnding) (.ledger next)
    set { file with
      tree := tree
      handle := { file.handle with page := some next, ledgerMet := true } }
  else
    set file.dropJournal
    if file.handle.contended then throw .locked
    let next := page.rewritten (file.handle.stamp.changes + 1) pages content
    let handle := { file.handle with page := some next, stamp := next.stamp }
    set (({ file.dropJournal with handle := handle }).putEntry (.store next))

/-- The files once the store has been closed, while another connection may go on with the
ledger. The last one that may write takes the changes up and removes the ledger. -/
def close (file : StoreFile) (shared : Bool) : FileTree :=
  if file.handle.inLedger && !file.handle.readOnly && !shared then
    let settled := (file.ledgerPage?.elim file fun page => file.putEntry (.store page)).removeSide
      ledgerEnding
    if file.handle.guard = .soleUse then settled.tree
    else (settled.removeSide ledgerIndexEnding).tree
  else file.tree

end StoreFile

end LevelGraph
