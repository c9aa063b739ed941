import LevelGraph.Files.Tree
import LevelGraph.Logging

/-!
# Logbooks

A logbook is logging in a tree of files: starting it makes its directory there, and every
event that is kept is written down. The log comes into being with the first of them; where
it cannot, nothing is written down. The log of a directory can be read once it is there.

In the tree the log is an empty file, since what is written down is held back for a while.
-/

namespace LevelGraph

/-- The files once some events have been logged, if any was written down. -/
def Logging.leaveLog? (logging : Logging) (tree : FileTree) (events : List Event) :
    Option FileTree :=
  match logging.active, logging.kept events with
  | some (_, directory), _ :: _ =>
    match tree.find (Path.raw (logPath directory)) with
    | .ok (_, entry) => if entry.isDirectory then none else some tree
    | .error _ => (tree.writeBytes (logPath directory) []).toOption
  | _, _ => none

/-- Logging with the files around it and what has been written. -/
structure Logbook where
  /-- The files. -/
  tree : FileTree
  /-- The state of logging. -/
  logging : Logging
  /-- The events written, the earliest first. -/
  written : List Event

namespace Logbook

/-- A logbook that nobody has started. -/
def closed (tree : FileTree) : Logbook := ⟨tree, Logging.idle, []⟩

/-- Write down those of some events that are kept. -/
def log (book : Logbook) (events : List Event) : Logbook :=
  match book.logging.leaveLog? book.tree events with
  | some tree => { book with tree := tree, written := book.written ++ book.logging.kept events }
  | none => book

/-- Make the directory that starting asks for, if any, and the files afterwards. -/
def prepare (book : Logbook) (directory : String) : Except FileFault Unit × FileTree :=
  match book.logging.wantedDirectory? directory with
  | none => (.ok (), book.tree)
  | some wanted => book.tree.makeDirectories wanted

/-- Start logging at a level in a directory. -/
def start (book : Logbook) (level : LogLevel) (directory : String) :
    Except LoggingError Unit × Logbook :=
  let (made, tree) := book.prepare directory
  let start := book.logging.start level directory made
  (start.result, Logbook.log { book with tree := tree, logging := start.after } start.events)

/-- What the log in a directory holds; none when there is no log. -/
def read? (book : Logbook) (directory : String) : Option (List Event) :=
  match book.tree.find (Path.raw (logPath directory)) with
  | .ok (_, .bytes _) => some book.written
  | _ => none

end Logbook

end LevelGraph
