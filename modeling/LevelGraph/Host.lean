import LevelGraph.Editor.Registry
import LevelGraph.Journal
import LevelGraph.Schema.Indexing

/-!
# The level editor

What the surrounding editor holds once the type declarations are known: the schema of
the first type collection, and a registry with one descriptor, an editor for the layers
of a terrain's base texture. A collection whose base texture has no slot for layers is
refused.
-/

namespace LevelGraph

/-- Why the declarations are refused. -/
inductive HostError where
  /-- There is no type collection. -/
  | noTypeCollections
  /-- The first collection is no schema. -/
  | schema (error : SchemaError)
  /-- The base texture has no slot for layers. -/
  | propertyEditor (error : RegistryError)
  deriving DecidableEq

/-- What is wrong, in words. -/
def HostError.message : HostError → String
  | .noTypeCollections => "schema set contains no type collections"
  | .schema error => error.message
  | .propertyEditor error => error.message

/-- A schema with its property editors. -/
structure Host where
  /-- The schema. -/
  schema : Schema
  /-- The registered descriptors. -/
  registry : Registry

namespace Host

/-- The namespace of the packaged schema. -/
def resourceNamespace : String := "LevelEditorXLE.Schema"

/-- The name of the packaged schema. -/
def resourceName : String := "xleroot.xsd"

/-- The descriptor of a base texture's layers. -/
def strataDescriptor (tags : SchemaTags) : Descriptor :=
  { Descriptor.plain "Strata" Names.strataChild "List of texturing stratas" with
    editor := some ⟨"Strata", tags.terrainBaseTextureStrata⟩ }

/-- Take up the first of the given collections. -/
def ofCollections : List TypeCollection → Except HostError Host
  | [] => .error .noTypeCollections
  | collection :: _ =>
    match Schema.ofCollection collection with
    | .error error => .error (.schema error)
    | .ok schema =>
      match Registry.empty.register schema schema.tags.terrainBaseTexture
          (strataDescriptor schema.tags) with
      | .error error => .error (.propertyEditor error)
      | .ok registry => .ok ⟨schema, registry⟩

/-- What is to be logged once a host is there. -/
def loadedEvent (host : Host) : Event :=
  .schemaLoaded host.schema.targetNamespace host.schema.size host.registry.size

end Host

end LevelGraph
