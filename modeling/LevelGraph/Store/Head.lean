import LevelGraph.Store.Database

/-!
# The head of a store file

A store file is a sequence of pages of one size. The first page begins with a head: a mark,
the size of a page, two numbers that say how the file may be written and read, a stamp of four
numbers that change with the content, and the layout version. Behind the head the first page
lists the objects.

A head is read in a fixed order, and the first thing that is wrong decides. Bytes that are
missing at the end of a short file count as zero. Of a file that no engine wrote only the head
and the list of objects are looked at: the file holds no object, or its list cannot be read.
-/

namespace LevelGraph

/-- The numbers in a head that tell one content of a file from another. -/
structure FileStamp where
  /-- How often the file has been changed. -/
  changes : Nat
  /-- How many pages it has. -/
  pages : Nat
  /-- The first page that is free. -/
  firstFree : Nat
  /-- How many pages are free. -/
  freePages : Nat
  deriving DecidableEq

/-- The stamp of a file without a head, all zeros. -/
def FileStamp.blank : FileStamp := ⟨0, 0, 0, 0⟩

/-- What a store file holds. -/
structure StoreContent where
  /-- The database, as far as it can be read. -/
  database : Database
  /-- A number that changes with the list of objects. -/
  edition : Nat
  /-- The number of the encoding of texts, zero where it is not fixed. -/
  encoding : Nat
  /-- Why the list of objects cannot be read, if it cannot. -/
  unlisted : Option EngineFault
  /-- The number of bytes that are left for listing objects, if that can be told. -/
  room : Option Nat
  /-- Whether a new object gets no page, because the list of free pages cannot be used. -/
  starved : Bool
  deriving DecidableEq

namespace StoreContent

/-- As many bytes as can be asked for. -/
def ampleRoom : Nat := 65536

/-- What a store file without pages holds. -/
def blank : StoreContent := ⟨Database.fresh, 0, 0, none, some ampleRoom, false⟩

/-- What a store file holds of which a database is known. -/
def ofDatabase (db : Database) : StoreContent :=
  { blank with
    database := db
    edition := (if db.documents.isSome then 1 else 0) + (if db.index.isSome then 1 else 0) }

end StoreContent

/-- The head of a store file, and what the file holds if the head is good. -/
structure StoreHead where
  /-- The stamp. -/
  stamp : FileStamp
  /-- Whether the head forbids writing. -/
  sealed : Bool
  /-- Whether changes are to be written to a ledger. -/
  ledgered : Bool
  /-- The size of a page, if it can be told. -/
  pageSize : Option Nat
  /-- The number of pages that the head lays claim to. -/
  claimed : Nat
  /-- What the file holds. -/
  content : Except EngineFault StoreContent

namespace StoreHead

/-- The head of a file that is no store. -/
def foreign (stamp : FileStamp) : StoreHead :=
  ⟨stamp, false, false, none, 0, .error .notADatabase⟩

/-- The size of a page where nothing else is asked for. -/
def usualPageSize : Nat := 4096

/-- The number of pages that the objects of a database take up, rows left out. -/
def pagesFor (db : Database) : Nat :=
  1 + (match db.documents with
    | some .table | some .bareTable => 2
    | _ => 0) + if db.index.isSome then 1 else 0

/-- The head that a content is written with, given how often the file has been changed and how
many pages it has. Pages that objects leave are free, and free pages are used again first. -/
def rewritten (head : StoreHead) (changes present : Nat) (content : StoreContent) : StoreHead :=
  let before := match head.content with
    | .ok known => pagesFor known.database
    | .error _ => 0
  let after := pagesFor content.database
  let reused := min head.stamp.freePages (after - before)
  let pages := present + (after - before - reused)
  let free := head.stamp.freePages - reused + (before - after)
  { stamp := ⟨changes, pages, if free = 0 then 0 else pages, free⟩
    sealed := false
    ledgered := head.ledgered
    pageSize := some (head.pageSize.getD usualPageSize)
    claimed := pages
    content := .ok content }

/-- The head of a store with nothing but a database. -/
def ofDatabase (db : Database) : StoreHead :=
  (foreign FileStamp.blank).rewritten 1 0 (StoreContent.ofDatabase db)

/-- The mark at the front of a store file. -/
def mark : List UInt8 :=
  [0x53, 0x51, 0x4C, 0x69, 0x74, 0x65, 0x20, 0x66, 0x6F, 0x72, 0x6D, 0x61, 0x74, 0x20, 0x33, 0x00]

/-- The byte at an index, zero behind the end. -/
def byteAt (bytes : List UInt8) (index : Nat) : Nat := (bytes[index]?.getD 0).toNat

/-- The number that two bytes spell. -/
def shortAt (bytes : List UInt8) (index : Nat) : Nat :=
  byteAt bytes index * 256 + byteAt bytes (index + 1)

/-- The number that four bytes spell. -/
def longAt (bytes : List UInt8) (index : Nat) : Nat :=
  shortAt bytes index * 65536 + shortAt bytes (index + 2)

/-- A number of thirty-two bits, taken with its sign. -/
def signed (number : Nat) : Int :=
  if number < 0x80000000 then number else number - 0x100000000

/-- Whether a number is the size of a page. -/
def isPageSize (size : Nat) : Bool :=
  [512, 1024, 2048, 4096, 8192, 16384, 32768, 65536].contains size

/-- The stamp in the head of a file. -/
def stampOf (bytes : List UInt8) : FileStamp :=
  ⟨longAt bytes 24, longAt bytes 28, longAt bytes 32, longAt bytes 36⟩

/-- Why the list of objects behind a head cannot be read, if it cannot: the file is of a later
format, or the list is no list, or it has entries that no engine wrote. -/
def listFault (bytes : List UInt8) : Option EngineFault :=
  if byteAt bytes 47 > 4 then some .unsupportedFormat
  else if byteAt bytes 100 ≠ 13 ∨ shortAt bytes 103 ≠ 0 then some .malformed
  else none

/-- The number of bytes that are left for listing objects, unless the first page gives away more
or less than it has. A page that is all left takes up anything. -/
def roomAt (bytes : List UInt8) (usable : Nat) : Option Nat :=
  let top := if shortAt bytes 105 = 0 then 65536 else shortAt bytes 105
  let room := top + byteAt bytes 107
  let gap := shortAt bytes 101
  if room < 108 ∨ room > usable ∨ gap ≠ 0 ∧ (gap < top ∨ gap > usable - 4) then none
  else if room = usable then some StoreContent.ampleRoom
  else some (room - 108)

/-- Whether the list of free pages cannot be used: it has pages that the file has not, or more
than one, since only an engine would have linked them. -/
def starvedAt (bytes : List UInt8) (pages : Nat) : Bool :=
  longAt bytes 36 > 0 &&
    (longAt bytes 36 > 1 || longAt bytes 32 < 2 || longAt bytes 32 > pages || pages < 2)

/-- The head of a file with the given bytes. -/
def ofBytes (bytes : List UInt8) : StoreHead :=
  if bytes.take mark.length ≠ mark then foreign (stampOf bytes)
  else
    let size := byteAt bytes 16 * 256 + byteAt bytes 17 * 65536
    let usable := size - byteAt bytes 20
    let readable :=
      byteAt bytes 19 ≤ 2 && (bytes.drop 21).take 3 == [64, 32, 32] && isPageSize size
    { stamp := stampOf bytes
      sealed := byteAt bytes 18 > 2
      ledgered := byteAt bytes 19 = 2
      pageSize := if readable then some size else none
      claimed := if longAt bytes 24 = longAt bytes 92 then longAt bytes 28 else 0
      content :=
        if readable && usable ≥ 480 then
          .ok ⟨⟨signed (longAt bytes 60), none, none, Table.empty⟩, longAt bytes 40,
            longAt bytes 56, listFault bytes, roomAt bytes usable,
            starvedAt bytes ((bytes.length + size - 1) / size)⟩
        else .error .notADatabase }

end StoreHead

end LevelGraph
