import LevelGraph.Schema.Basic

/-!
# Building a schema

A type collection becomes a schema when its names are distinct, every base and every
child type is declared, no base chain runs on for ever, and the six named types are
there. Otherwise the first fault is reported, in that order: a repeated name, then
an unknown base or child type in order of declaration, then a chain without end,
then a missing named type.

A chain that ends passes each type at most once. So a chain that still goes on after
as many links as there are types never ends, and a shorter walk could refuse a chain
through all of them.
-/

namespace LevelGraph

/-- Why a type collection is no schema. -/
inductive SchemaError where
  /-- Two declarations have one name. -/
  | duplicateType (name : String)
  /-- A type derives from an undeclared type. -/
  | unknownBaseType (typeName base : String)
  /-- A slot holds nodes of an undeclared type. -/
  | unknownChildType (typeName child childType : String)
  /-- The base chain of a type never ends. -/
  | cyclicBaseType (name : String)
  /-- A type known by name is not declared. -/
  | missingType (name : String)
  deriving DecidableEq

/-- What is wrong, in words. -/
def SchemaError.message : SchemaError → String
  | .duplicateType name => "type declared more than once: " ++ name
  | .unknownBaseType typeName base =>
    "type `" ++ typeName ++ "` derives from unknown type `" ++ base ++ "`"
  | .unknownChildType typeName child childType =>
    "child `" ++ child ++ "` of type `" ++ typeName ++ "` uses unknown type `" ++ childType ++ "`"
  | .cyclicBaseType name => "base chain of type `" ++ name ++ "` is cyclic"
  | .missingType name => "schema is missing required type `" ++ name ++ "`"

namespace TypeCollection

/-- The place of the declaration of a name. -/
def typeId? (collection : TypeCollection) (name : String) : Option TypeId :=
  (collection.types.findIdx? fun decl => decl.name == name).map TypeId.mk

end TypeCollection

/-- The first name in a list that occurs before it, given the names before the list. -/
def firstRepeated? : List String → List String → Option String
  | _, [] => none
  | seen, name :: rest =>
    if seen.contains name then some name else firstRepeated? (name :: seen) rest

/-- Resolve the type of one slot. -/
def ChildDecl.resolve (collection : TypeCollection) (owner : String) (decl : ChildDecl) :
    Except SchemaError ChildInfo :=
  match collection.typeId? decl.typeName with
  | some childType => .ok ⟨decl.name, childType, decl.isList⟩
  | none => .error (.unknownChildType owner decl.name decl.typeName)

/-- Resolve slots in order. -/
def ChildDecl.resolveAll (collection : TypeCollection) (owner : String) :
    List ChildDecl → Except SchemaError (List ChildInfo)
  | [] => .ok []
  | decl :: rest =>
    match decl.resolve collection owner with
    | .error error => .error error
    | .ok child =>
      match resolveAll collection owner rest with
      | .error error => .error error
      | .ok children => .ok (child :: children)

/-- Resolve the base of one type. -/
def TypeDecl.resolveBase (collection : TypeCollection) (decl : TypeDecl) :
    Except SchemaError (Option TypeId) :=
  match decl.base with
  | none => .ok none
  | some base =>
    match collection.typeId? base with
    | some id => .ok (some id)
    | none => .error (.unknownBaseType decl.name base)

/-- Resolve one type: its base first, then its slots. -/
def TypeDecl.resolve (collection : TypeCollection) (decl : TypeDecl) :
    Except SchemaError TypeDef :=
  match decl.resolveBase collection with
  | .error error => .error error
  | .ok base =>
    match ChildDecl.resolveAll collection decl.name decl.children with
    | .error error => .error error
    | .ok children => .ok ⟨decl.name, base, decl.attributes, children⟩

/-- Resolve types in order. -/
def TypeDecl.resolveAll (collection : TypeCollection) :
    List TypeDecl → Except SchemaError (List TypeDef)
  | [] => .ok []
  | decl :: rest =>
    match decl.resolve collection with
    | .error error => .error error
    | .ok definition =>
      match resolveAll collection rest with
      | .error error => .error error
      | .ok definitions => .ok (definition :: definitions)

/-- Whether following base links from here ends within so many links. -/
def chainEndsWithin (types : List TypeDef) : Nat → Option TypeId → Bool
  | _, none => true
  | 0, some _ => false
  | links + 1, some id => chainEndsWithin types links (baseIn types id)

/-- The first definition whose base chain never ends. -/
def firstEndless? (types : List TypeDef) : Option TypeDef :=
  types.find? fun definition => !chainEndsWithin types types.length definition.base

/-- The declared type of a required name. -/
def TypeCollection.requireType (collection : TypeCollection) (name : String) :
    Except SchemaError TypeId :=
  match collection.typeId? name with
  | some id => .ok id
  | none => .error (.missingType name)

/-- The types known by name, in the order in which their absence is reported. -/
def TypeCollection.findTags (collection : TypeCollection) : Except SchemaError SchemaTags := do
  let game ← collection.requireType Names.gameType
  let placementsFolder ← collection.requireType Names.placementsFolderType
  let placementsCellReference ← collection.requireType Names.placementsCellReferenceType
  let placementsDocument ← collection.requireType Names.placementsDocumentType
  let terrainBaseTexture ← collection.requireType Names.terrainBaseTextureType
  let terrainBaseTextureStrata ← collection.requireType Names.terrainBaseTextureStrataType
  return ⟨game, placementsFolder, placementsCellReference, placementsDocument, terrainBaseTexture,
    terrainBaseTextureStrata⟩

/-- Build the schema of a type collection. -/
def Schema.ofCollection (collection : TypeCollection) : Except SchemaError Schema :=
  match firstRepeated? [] (collection.types.map (·.name)) with
  | some name => .error (.duplicateType name)
  | none =>
    match TypeDecl.resolveAll collection collection.types with
    | .error error => .error error
    | .ok types =>
      match firstEndless? types with
      | some definition => .error (.cyclicBaseType definition.name)
      | none =>
        match collection.findTags with
        | .error error => .error error
        | .ok tags => .ok ⟨collection.targetNamespace, types, tags⟩

end LevelGraph
