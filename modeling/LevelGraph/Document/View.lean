import LevelGraph.Document.Basic

/-!
# Typed views of nodes

A node whose type derives from a named type can be seen as what that type stands for:
a game, a placements folder, a cell reference or a base texture. A node of another
type has no such view, and that is no error. Of a game only the first placements folder
counts, and nodes in a folder that are no cell references are passed over.
-/

namespace LevelGraph

/-- A reference to a cell document. -/
structure CellReference where
  /-- The reference node. -/
  node : NodeId
  /-- Its display name. -/
  name : Option String
  /-- Where its cell is stored, as declared. -/
  location : Option String
  /-- The document it stands for, open or not. -/
  target : Option DocumentId
  deriving DecidableEq

/-- A folder of cell references. -/
structure PlacementsFolder where
  /-- The folder node. -/
  node : NodeId
  /-- Its cell references in order. -/
  cells : List CellReference
  deriving DecidableEq

/-- The root of a game. -/
structure Game where
  /-- The game node. -/
  node : NodeId
  /-- Its placements folder. -/
  folder : Option PlacementsFolder
  deriving DecidableEq

/-- The base texture of a terrain. -/
structure TerrainTexture where
  /-- The texture node. -/
  node : NodeId
  /-- Its layers in order. -/
  strata : List NodeId
  deriving DecidableEq

namespace Document

/-- Whether a node of the document has a type that is, or derives from, another. -/
def adaptsTo (doc : Document) (schema : Schema) (id : NodeId) (tag : TypeId) : Bool :=
  match doc.node? id with
  | some node => schema.isAssignableFrom tag node.type
  | none => false

/-- The node as a cell reference. -/
def cellReference? (doc : Document) (schema : Schema) (id : NodeId) : Option CellReference :=
  if doc.adaptsTo schema id schema.tags.placementsCellReference then
    some ⟨id, doc.attribute? id Names.nameAttribute, doc.attribute? id Names.uriAttribute,
      doc.target? id⟩
  else none

/-- The node as a placements folder. -/
def placementsFolder? (doc : Document) (schema : Schema) (id : NodeId) : Option PlacementsFolder :=
  if doc.adaptsTo schema id schema.tags.placementsFolder then
    some ⟨id, (doc.children id Names.cellChild).filterMap (doc.cellReference? schema)⟩
  else none

/-- The node as a game. -/
def game? (doc : Document) (schema : Schema) (id : NodeId) : Option Game :=
  if doc.adaptsTo schema id schema.tags.game then
    some ⟨id, (doc.children id Names.placementsFolderChild).findSome?
      (doc.placementsFolder? schema)⟩
  else none

/-- The node as a base texture. -/
def terrainTexture? (doc : Document) (schema : Schema) (id : NodeId) : Option TerrainTexture :=
  if doc.adaptsTo schema id schema.tags.terrainBaseTexture then
    some ⟨id, doc.children id Names.strataChild⟩
  else none

end Document

end LevelGraph
