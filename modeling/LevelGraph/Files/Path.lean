/-!
# Paths

A path is a text with slashes between names. Slashes in a row count as one, a slash at
the end counts for nothing, and so does a `.` other than a leading one; two paths that
differ in nothing else are the same path. A `..` stays, because where it leads depends on
what is there.

The files themselves know a path by its bytes, which need not spell a text. Such a raw path is
kept with a character for each byte, so that its length is the number of its bytes.
-/

namespace LevelGraph.Path

/-- The pieces between slashes, empty ones included. -/
def pieces : List Char → List (List Char)
  | [] => [[]]
  | char :: rest =>
    if char = '/' then [] :: pieces rest
    else
      match pieces rest with
      | [] => [[char]]
      | piece :: later => (char :: piece) :: later

/-- Whether a path starts at the root. -/
def isAbsolute (path : String) : Bool := path.toList.head? == some '/'

/-- The names of a path in order, `.` and `..` among them. -/
def names (path : String) : List String :=
  ((pieces path.toList).filter fun piece => !piece.isEmpty).map String.ofList

/-- Whether a path ends in a slash, so that it can only name a directory. -/
def endsInSlash (path : String) : Bool := path.toList.getLast? == some '/'

/-- The path of what has a name in a directory. -/
def join (directory name : String) : String :=
  if directory.isEmpty ∨ endsInSlash directory then directory ++ name
  else directory ++ "/" ++ name

/-- What a path amounts to: `/` for the root, then the names that count. -/
def parts (path : String) : List String :=
  match isAbsolute path, names path with
  | true, names => "/" :: names.filter (· ≠ ".")
  | false, [] => []
  | false, first :: rest => first :: rest.filter (· ≠ ".")

/-- Whether two paths are the same path. -/
def same (first second : String) : Bool := parts first == parts second

/-- The raw path of bytes. -/
def ofBytes (bytes : List UInt8) : String :=
  String.ofList (bytes.map fun byte => Char.ofNat byte.toNat)

/-- The bytes of a raw path. -/
def bytes (raw : String) : List UInt8 := raw.toList.map fun char => char.toNat.toUInt8

/-- The raw path of a path. -/
def raw (path : String) : String := ofBytes path.toUTF8.toList

end LevelGraph.Path
