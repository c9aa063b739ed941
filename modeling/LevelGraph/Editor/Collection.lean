import LevelGraph.Document.Edit
import LevelGraph.Text.Displayed

/-!
# Editing the collection in a slot

A collection editor appends new nodes of one type to a slot, and removes and moves nodes
by identity. It knows the type of its items and the label of its insert action, and
nothing of the slot it is used on: which slot an editor belongs to is the registry's
concern.

An edit that does not apply, because the owner is gone, the item is not in the slot or
a move would leave it, yields nothing.
-/

namespace LevelGraph

/-- An editor for slots that hold nodes of one type. -/
structure CollectionEditor where
  /-- The label of the insert action. -/
  label : String
  /-- The type of inserted nodes. -/
  itemType : TypeId
  deriving DecidableEq

namespace CollectionEditor

/-- The nodes of the collection in order. -/
def items (doc : Document) (owner : NodeId) (slot : String) : List NodeId := doc.children owner slot

/-- Append a new item with a fresh identifier. -/
def insert (editor : CollectionEditor) (doc : Document) (owner : NodeId) (slot : String)
    (fresh : NodeId) : Option Document :=
  (doc.append owner slot editor.itemType fresh).toOption

/-- Remove an item with all that is below it. -/
def remove (_ : CollectionEditor) (doc : Document) (owner : NodeId) (slot : String)
    (item : NodeId) : Option Document :=
  doc.removeChild owner slot item

/-- Move an item by a number of places. -/
def move (_ : CollectionEditor) (doc : Document) (owner : NodeId) (slot : String)
    (item : NodeId) (offset : Int) : Option Document :=
  doc.moveChild owner slot item offset

/-- The editor in one line for a person who looks for a fault. -/
def summary (editor : CollectionEditor) : String :=
  "CollectionEditor \x7b item_label: " ++ Text.display editor.label ++ ", .. \x7d"

end CollectionEditor

end LevelGraph
