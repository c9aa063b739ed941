import LevelGraph.Schema.Declaration
import LevelGraph.Table

/-!
# Schemas

A schema holds type definitions whose references are resolved to indices. An index
means something only to the schema that issued it; to another schema it is foreign,
with no definition and the name `<unknown>`.

The types that a type derives from form its ancestry: the type itself, its base,
the base of that, and so on. Every question about the hierarchy is a question about
this list. A schema is only ever built with base links that end, so an ancestry has
at most one entry per definition, or is a foreign index alone.
-/

namespace LevelGraph

/-- The index of a type in its schema. -/
@[ext] structure TypeId where
  /-- The place of its declaration. -/
  index : Nat
  deriving DecidableEq

/-- Types are ordered by declaration. -/
instance : KeyOrder TypeId := KeyOrder.byNumber TypeId.index TypeId.ext

/-- A child slot whose type is resolved. -/
structure ChildInfo where
  /-- The slot's name. -/
  name : String
  /-- The type of its nodes. -/
  childType : TypeId
  /-- Whether it may hold several nodes. -/
  isList : Bool
  deriving DecidableEq

/-- A type whose references are resolved. -/
structure TypeDef where
  /-- The type's name. -/
  name : String
  /-- The type it derives from. -/
  base : Option TypeId
  /-- Its own attributes. -/
  attributes : List String
  /-- Its own child slots. -/
  children : List ChildInfo
  deriving DecidableEq

/-- The six types that the placement and terrain code knows by name. -/
structure SchemaTags where
  /-- The root of a game document. -/
  game : TypeId
  /-- The folder of cell references. -/
  placementsFolder : TypeId
  /-- The reference to a cell document. -/
  placementsCellReference : TypeId
  /-- The root of a cell document. -/
  placementsDocument : TypeId
  /-- The base texture of a terrain. -/
  terrainBaseTexture : TypeId
  /-- One layer of a base texture. -/
  terrainBaseTextureStrata : TypeId
  deriving DecidableEq

/-- Resolved type definitions of one namespace. -/
structure Schema where
  /-- The namespace. -/
  targetNamespace : String
  /-- The definitions in order of declaration. -/
  types : List TypeDef
  /-- The types known by name. -/
  tags : SchemaTags
  deriving DecidableEq

/-- The base link of the definition at an index. -/
def baseIn (types : List TypeDef) (id : TypeId) : Option TypeId :=
  (types[id.index]?).bind (·.base)

/-- Up to so many types met by following base links, starting at one. -/
def chainIn (types : List TypeDef) : Nat → TypeId → List TypeId
  | 0, _ => []
  | steps + 1, id =>
    id ::
      match baseIn types id with
      | none => []
      | some base => chainIn types steps base

namespace Schema

/-- The number of declared types. -/
def size (schema : Schema) : Nat := schema.types.length

/-- The type of a name. -/
def typeId? (schema : Schema) (name : String) : Option TypeId :=
  (schema.types.findIdx? fun definition => definition.name == name).map TypeId.mk

/-- The definition of a type; none for a foreign index. -/
def typeDef? (schema : Schema) (id : TypeId) : Option TypeDef := schema.types[id.index]?

/-- The name of a type. -/
def typeName (schema : Schema) (id : TypeId) : String :=
  match schema.typeDef? id with
  | some definition => definition.name
  | none => "<unknown>"

/-- A type and the types that it derives from, nearest first. -/
def ancestry (schema : Schema) (id : TypeId) : List TypeId :=
  chainIn schema.types (schema.types.length + 1) id

/-- Whether the second type is the first or derives from it. -/
def isAssignableFrom (schema : Schema) (base derived : TypeId) : Bool :=
  (schema.ancestry derived).contains base

/-- The slot that a type declares under a name; the first of a repeated name. -/
def ownChild? (schema : Schema) (owner : TypeId) (slot : String) : Option ChildInfo :=
  (schema.typeDef? owner).bind fun definition =>
    definition.children.find? fun child => child.name == slot

/-- The slot of a name that a type has, its own or inherited from the nearest base. -/
def childInfo? (schema : Schema) (owner : TypeId) (slot : String) : Option ChildInfo :=
  (schema.ancestry owner).findSome? fun type => schema.ownChild? type slot

/-- Whether a type is, or derives from, the cell reference type. -/
def isReferenceType (schema : Schema) (type : TypeId) : Bool :=
  schema.isAssignableFrom schema.tags.placementsCellReference type

end Schema

/-- The kinds of node that the placement and terrain code tells apart. -/
inductive NodeKind where
  /-- The root of a game document. -/
  | game
  /-- A folder of cell references. -/
  | placementsFolder
  /-- A reference to a cell document. -/
  | cellReference
  /-- The root of a cell document. -/
  | placementsDocument
  /-- The base texture of a terrain. -/
  | terrainBaseTexture
  /-- A layer of a base texture. -/
  | strata
  /-- Any other node. -/
  | other
  deriving DecidableEq

/-- The kind's name. -/
def NodeKind.name : NodeKind → String
  | .game => "Game"
  | .placementsFolder => "PlacementsFolder"
  | .cellReference => "CellReference"
  | .placementsDocument => "PlacementsDocument"
  | .terrainBaseTexture => "TerrainBaseTexture"
  | .strata => "Strata"
  | .other => "Other"

/-- The tags with their kinds, in the order in which they are tried. -/
def SchemaTags.kinds (tags : SchemaTags) : List (TypeId × NodeKind) :=
  [(tags.placementsCellReference, .cellReference), (tags.placementsFolder, .placementsFolder),
    (tags.game, .game), (tags.placementsDocument, .placementsDocument),
    (tags.terrainBaseTextureStrata, .strata), (tags.terrainBaseTexture, .terrainBaseTexture)]

/-- The kind of a type: that of the first tag tried which the type derives from. -/
def Schema.kindOf (schema : Schema) (type : TypeId) : NodeKind :=
  match schema.tags.kinds.find? fun tagged => schema.isAssignableFrom tagged.1 type with
  | some (_, kind) => kind
  | none => .other

end LevelGraph
