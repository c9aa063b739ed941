import LevelGraph.Schema.Names

/-!
# Type declarations

A type collection lists declarations of node types for one namespace. A type may
derive from a base type, declares attributes, and declares child slots, each with
the type of its nodes and whether it is a list. Declarations refer to each other
by name; whether the names resolve is decided when a schema is built from them.
-/

namespace LevelGraph

/-- A declared child slot. -/
structure ChildDecl where
  /-- The slot's name. -/
  name : String
  /-- The name of the type of its nodes. -/
  typeName : String
  /-- Whether it may hold several nodes. -/
  isList : Bool
  deriving DecidableEq

/-- A declared type. -/
structure TypeDecl where
  /-- The type's name. -/
  name : String
  /-- The name of the type it derives from. -/
  base : Option String
  /-- Its own attributes. -/
  attributes : List String
  /-- Its own child slots. -/
  children : List ChildDecl
  deriving DecidableEq

/-- The declarations of one namespace. -/
structure TypeCollection where
  /-- The namespace. -/
  targetNamespace : String
  /-- The declared types in order. -/
  types : List TypeDecl
  deriving DecidableEq

namespace TypeDecl

/-- A type without base, attributes or slots. -/
def named (name : String) : TypeDecl := ⟨name, none, [], []⟩

/-- The type derived from a base, in the place of any earlier base. -/
def withBase (decl : TypeDecl) (base : String) : TypeDecl := { decl with base := some base }

/-- The type with one more attribute. -/
def withAttribute (decl : TypeDecl) (name : String) : TypeDecl :=
  { decl with attributes := decl.attributes ++ [name] }

/-- The type with one more slot for a single node. -/
def withChild (decl : TypeDecl) (name typeName : String) : TypeDecl :=
  { decl with children := decl.children ++ [⟨name, typeName, false⟩] }

/-- The type with one more slot for a list of nodes. -/
def withChildList (decl : TypeDecl) (name typeName : String) : TypeDecl :=
  { decl with children := decl.children ++ [⟨name, typeName, true⟩] }

end TypeDecl

/-- The built-in declarations: games with a placements folder and a terrain, cell
references, cell documents with placed objects, and layered base textures. -/
def TypeCollection.baseline : TypeCollection where
  targetNamespace := "gap"
  types :=
    [ ((TypeDecl.named Names.gameType).withAttribute Names.nameAttribute
        |>.withChild Names.placementsFolderChild Names.placementsFolderType
        |>.withChild Names.terrainChild Names.terrainType),
      ((TypeDecl.named Names.placementsFolderType).withAttribute Names.nameAttribute
        |>.withChildList Names.cellChild Names.placementsCellReferenceType),
      ((TypeDecl.named Names.placementsCellReferenceType).withAttribute Names.nameAttribute
        |>.withAttribute Names.uriAttribute),
      ((TypeDecl.named Names.placementsDocumentType)
        |>.withChildList Names.placementChild Names.placementObjectType),
      ((TypeDecl.named Names.placementObjectType).withAttribute Names.nameAttribute
        |>.withAttribute "model" |>.withAttribute "material" |>.withAttribute "transform"),
      ((TypeDecl.named Names.terrainType).withAttribute "cellsDirectory"
        |>.withChild Names.baseTextureChild Names.terrainBaseTextureType),
      ((TypeDecl.named Names.terrainBaseTextureType).withAttribute "diffuseDims"
        |>.withChildList Names.strataChild Names.terrainBaseTextureStrataType),
      ((TypeDecl.named Names.terrainBaseTextureStrataType).withAttribute "texture0"
        |>.withAttribute "texture1" |>.withAttribute "slope" |>.withAttribute "endHeight"
        |>.withAttribute "mappingConstant0" |>.withAttribute "mappingConstant1"
        |>.withAttribute "mappingConstantSlope") ]

end LevelGraph
