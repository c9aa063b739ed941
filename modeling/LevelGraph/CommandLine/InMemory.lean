import LevelGraph.CommandLine
import LevelGraph.Logging.Logbook
import LevelGraph.Store.Contact

/-!
# Runs in a tree of files

The world around a run may be a tree of files in memory. Then a run is a function of its
arguments and the tree, and the tree afterwards tells which directories and files the run
made and what became of the store.
-/

namespace LevelGraph.CommandLine

/-- Leave a connected store with the given database. -/
def leaveWith (db : Database) : ConnectionAction Unit := do
  let content ← Connections.readForChange
  unless content.database = db do Connections.write (StoreContent.ofDatabase db)

/-- The world of a tree of files. -/
def treeWorld : Surroundings (StateM FileTree) where
  readText path := do return (← get).readText path
  makeDirectory path := do
    let (made, after) := (← get).makeDirectories path
    set after
    return made
  makeLog logging events := modify fun tree => (logging.leaveLog? tree events).getD tree
  connect path := do
    match (Connections.start (← get)).reach path with
    | .error fault => return .error fault
    | .ok contact =>
      let (found, after) := contact.links.found
      set after.tree
      return .ok found
  keepStore path db := do
    if let .ok contact := (Connections.start (← get)).reach path then
      set ((leaveWith db).run.run contact.links).2.tree

/-- A run in a tree, and the tree afterwards. -/
def runIn (tree : FileTree) (supply : IdSupply) (args : List String) : Run × FileTree :=
  let (run, after) := (run treeWorld supply args).run tree
  (run, (run.logging.leaveLog? after run.events).getD after)

end LevelGraph.CommandLine
