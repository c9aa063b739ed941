import LevelGraph.Files.Fault
import LevelGraph.Files.Path
import LevelGraph.Store.Head

/-!
# A tree of files in memory

The part of a file system that a session can come across: directories and files, each at
a place, with one directory as the working directory. A walk goes name by name and needs
a directory under every step, also under `.` and `..`. There are no links, so a place has
one name. Names are raw, with a character for each byte.

A file is kept as its bytes, or, once a store engine has written to it, as the store or the
ledger of a store that it then is.
-/

namespace LevelGraph

/-- What lies at a place. -/
inductive FileEntry where
  /-- A directory. -/
  | directory
  /-- A file of bytes. -/
  | bytes (content : List UInt8)
  /-- A store. -/
  | store (head : StoreHead)
  /-- A ledger, and the store as it is once the changes in the ledger are taken up. -/
  | ledger (head : StoreHead)

/-- Whether something is a directory. -/
def FileEntry.isDirectory : FileEntry → Bool
  | .directory => true
  | _ => false

/-- A place: the raw names that lead to it from the root. -/
abbrev Place := List String

/-- The absolute path of a place. -/
def Place.text (place : Place) : String := String.join (place.map ("/" ++ ·))

/-- Files and directories, with a working directory. -/
structure FileTree where
  /-- What lies at each place, by its absolute path. -/
  entries : Table String FileEntry
  /-- What lay at a place when it was last removed from there. -/
  removed : Table String FileEntry
  /-- Where relative paths start. -/
  workingDirectory : Place

namespace FileTree

/-- The number of bytes that a name may have. -/
def maxNameBytes : Nat := 255

/-- The number of bytes that a path may have. -/
def maxPathBytes : Nat := 4095

/-- The places on the way to a place, the root first and the place itself last. -/
def placesDownTo (place : Place) : List Place :=
  (List.range (place.length + 1)).map fun count => place.take count

/-- A tree with the root, the places down to the working directory, and nothing else. -/
def bare (workingDirectory : Place) : FileTree :=
  ⟨Table.ofList ((placesDownTo workingDirectory).map fun place => (place.text, .directory)),
    Table.empty, workingDirectory⟩

/-- What lies at a place. -/
def entry? (tree : FileTree) (place : Place) : Option FileEntry := tree.entries.find? place.text

/-- The tree with something put at a place. -/
def put (tree : FileTree) (place : Place) (entry : FileEntry) : FileTree :=
  { tree with entries := tree.entries.insert place.text entry }

/-- The tree without what lies at a place. -/
def remove (tree : FileTree) (place : Place) : FileTree :=
  match tree.entry? place with
  | none => tree
  | some entry =>
    { tree with
      entries := tree.entries.erase place.text
      removed := tree.removed.insert place.text entry }

/-- Whether there is a directory at a place. -/
def isDirectoryAt (tree : FileTree) (place : Place) : Bool :=
  (tree.entry? place).any FileEntry.isDirectory

/-- Where a path starts. -/
def start (tree : FileTree) (path : String) : Place :=
  if Path.isAbsolute path then [] else tree.workingDirectory

/-- Go from a directory to what it has under a name. -/
def step (tree : FileTree) (place : Place) (name : String) : Except FileFault Place :=
  match tree.entry? place with
  | none => .error .notFound
  | some .directory =>
    if name = "." then .ok place
    else if name = ".." then .ok place.dropLast
    else if name.length > maxNameBytes then .error .nameTooLong
    else .ok (place ++ [name])
  | some _ => .error .notADirectory

/-- Go along names in order. -/
def walk (tree : FileTree) : Place → List String → Except FileFault Place
  | place, [] => .ok place
  | place, name :: rest =>
    match tree.step place name with
    | .error fault => .error fault
    | .ok next => tree.walk next rest

/-- Refuse a raw path that no walk can take. -/
def checkPath (path : String) : Except FileFault Unit :=
  if path.contains '\x00' then .error .nulInPath
  else if path.length > maxPathBytes then .error .nameTooLong
  else if path.isEmpty then .error .notFound
  else .ok ()

/-- The place of a raw path, in a directory that is there. -/
def placeOf (tree : FileTree) (path : String) : Except FileFault Place :=
  match checkPath path with
  | .error fault => .error fault
  | .ok () =>
    tree.walk (tree.start path)
      (Path.names path ++ if Path.endsInSlash path then ["."] else [])

/-- The place of a raw path and what lies there. -/
def find (tree : FileTree) (path : String) : Except FileFault (Place × FileEntry) :=
  match tree.placeOf path with
  | .error fault => .error fault
  | .ok place =>
    match tree.entry? place with
    | none => .error .notFound
    | some entry => .ok (place, entry)

/-- The text of a file. -/
def readText (tree : FileTree) (path : String) : Except FileFault String :=
  match tree.find (Path.raw path) with
  | .error fault => .error fault
  | .ok (_, .directory) => .error .isADirectory
  | .ok (_, .store _) | .ok (_, .ledger _) => .error .notText
  | .ok (_, .bytes content) =>
    match Text.decodeUtf8 content with
    | .error _ => .error .notText
    | .ok text => .ok text

/-- Put bytes into a file, which is made where it is missing. -/
def writeBytes (tree : FileTree) (path : String) (content : List UInt8) :
    Except FileFault FileTree :=
  match tree.placeOf (Path.raw path) with
  | .error fault => .error fault
  | .ok place =>
    if tree.isDirectoryAt place then .error .isADirectory
    else .ok (tree.put place (.bytes content))

/-- Whether names lead to a directory. -/
def isDirectory (tree : FileTree) (start : Place) (names : List String) : Bool :=
  match tree.walk start names with
  | .error _ => false
  | .ok place => tree.isDirectoryAt place

/-- Make the directory that the last of these names asks for. -/
def makeOne (tree : FileTree) (start : Place) (names : List String) : Except FileFault FileTree :=
  match names.getLast? with
  | none => .error .alreadyExists
  | some name =>
    match tree.walk start names.dropLast with
    | .error fault => .error fault
    | .ok parent =>
      match tree.step parent name with
      | .error fault => .error fault
      | .ok place =>
        if name = "." ∨ name = ".." then .error .alreadyExists
        else
          match tree.entry? place with
          | some _ => .error .alreadyExists
          | none => .ok (tree.put place .directory)

/-- Names, the last first, without those at the front that are dots. -/
def dropDots (names : List String) : List String := names.dropWhile (· = ".")

/-- Names, the last first, without the last one that counts and the dots around it. -/
def parentNames (names : List String) : List String := dropDots ((dropDots names).drop 1)

/-- A parent has fewer names. -/
theorem parentNames_length_lt (name : String) (rest : List String) :
    (parentNames (name :: rest)).length < (name :: rest).length := by
  have outer := (List.dropWhile_suffix (l := (dropDots (name :: rest)).drop 1) (· = ".")).length_le
  have inner := (List.dropWhile_suffix (l := name :: rest) (· = ".")).length_le
  simp only [parentNames, dropDots, List.length_drop, List.length_cons] at outer inner ⊢
  omega

/-- Make the directory of these names, given with the last name first, and what is missing
on the way to it. A directory that is there already is no fault. What was made before a
fault stays. -/
def makeAll (tree : FileTree) (start : Place) :
    List String → Except FileFault Unit × FileTree
  | [] => (.ok (), tree)
  | last :: front =>
    let names := (last :: front).reverse
    match tree.makeOne start names with
    | .ok made => (.ok (), made)
    | .error .notFound =>
      match tree.makeAll start (parentNames (last :: front)) with
      | (.error fault, prepared) => (.error fault, prepared)
      | (.ok (), prepared) =>
        match prepared.makeOne start names with
        | .ok made => (.ok (), made)
        | .error fault =>
          if prepared.isDirectory start names then (.ok (), prepared) else (.error fault, prepared)
    | .error fault =>
      if tree.isDirectory start names then (.ok (), tree) else (.error fault, tree)
termination_by names => names.length
decreasing_by exact parentNames_length_lt last front

/-- Make a directory and what is missing on the way to it, and the tree afterwards. -/
def makeDirectories (tree : FileTree) (path : String) : Except FileFault Unit × FileTree :=
  match checkPath (Path.raw path) with
  | .error fault => (.error fault, tree)
  | .ok () => tree.makeAll (tree.start path) (Path.names (Path.raw path)).reverse

end FileTree

end LevelGraph
