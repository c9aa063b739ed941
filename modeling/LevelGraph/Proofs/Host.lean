import LevelGraph.Host
import LevelGraph.Proofs.Editor.ListMachine
import LevelGraph.Proofs.Editor.Registration
import LevelGraph.Proofs.Schema.Slots

/-!
# What a host is made of

A host is made of the first type collection alone, and it is made exactly when that one is accepted as a
schema and gives the base texture a slot for layers, be it an inherited one. Otherwise there is one
`Fault`. A registry that starts empty never has the slot already. Every base texture, by whatever links it
derives from the built-in one, is then edited by the same editor, and nothing else is.

That editor inserts layers of the built-in kind. A slot may ask for another kind: the built-in base
texture can be declared so, and a texture that derives from it can declare the slot anew.
`insert_fits_iff` says for which declarations all that is inserted fits.
-/

namespace LevelGraph

open Relation

namespace Host

variable {collections : List TypeCollection} {first : TypeCollection} {schema : Schema} {host : Host}
  {type : TypeId} {slot : String} {error : HostError}

/-- Why declarations are refused. -/
inductive Fault (collections : List TypeCollection) : HostError → Prop where
  /-- There are none. -/
  | empty (none : collections.head? = none) : Fault collections .noTypeCollections
  /-- The first are no schema. -/
  | schema {first : TypeCollection} {error : SchemaError} (head : collections.head? = some first)
      (fault : first.Fault error) : Fault collections (.schema error)
  /-- They are, but the base texture has no slot for layers. -/
  | slotless {first : TypeCollection} (head : collections.head? = some first)
      (accepted : first.Accepted)
      (lacks : ¬ first.HasSlot Names.strataChild Names.terrainBaseTextureType) :
      Fault collections
        (.propertyEditor (.unknownChild Names.terrainBaseTextureType Names.strataChild))

/-- The request to register the editor for the layers of a base texture. -/
def layersRequest (schema : Schema) : Registry.Request :=
  ⟨schema.tags.terrainBaseTexture, strataDescriptor schema.tags⟩

/-- The registry of a host. -/
def layersRegistry (schema : Schema) : Registry := Registry.ofRequests schema [layersRequest schema]

section Tags

variable (built : Schema.ofCollection first = .ok schema)

include built

/-- The texture and its layers are known by their names. -/
theorem typeId?_textureTags :
    schema.typeId? Names.terrainBaseTextureType = some schema.tags.terrainBaseTexture ∧
      schema.typeId? Names.terrainBaseTextureStrataType = some schema.tags.terrainBaseTextureStrata := by
  have tags := (Schema.indexes_of_ofCollection built).tags
  simp only [Names.required, SchemaTags.ids, List.forall₂_cons] at tags
  obtain ⟨-, -, -, -, texture, strata, -⟩ := tags
  exact ⟨texture, strata⟩

/-- The name of the texture type is that of its tag. -/
theorem typeId?_terrainBaseTexture :
    schema.typeId? Names.terrainBaseTextureType = some schema.tags.terrainBaseTexture :=
  (typeId?_textureTags built).1

/-- The name of the strata type is that of its tag. -/
theorem typeId?_terrainBaseTextureStrata :
    schema.typeId? Names.terrainBaseTextureStrataType = some schema.tags.terrainBaseTextureStrata :=
  (typeId?_textureTags built).2

/-- The base texture takes its editor when it has the slot, since nothing is registered before. -/
theorem accepts_layers_iff :
    Registry.empty.Accepts schema (layersRequest schema) ↔
      first.HasSlot Names.strataChild Names.terrainBaseTextureType := by
  refine Registry.accepts_iff.trans ((and_iff_left rfl).trans ?_)
  exact Schema.exists_childInfo?_iff_hasSlot built (typeId?_terrainBaseTexture built)

/-- A schema whose base texture has the slot becomes a host. -/
theorem ofCollections_of_hasSlot (head : collections.head? = some first)
    (slotted : first.HasSlot Names.strataChild Names.terrainBaseTextureType) :
    ofCollections collections = .ok ⟨schema, layersRegistry schema⟩ := by
  obtain ⟨rest, rfl⟩ := List.head?_eq_some_iff.mp head
  obtain ⟨registry, registered⟩ := (accepts_layers_iff built).mpr slotted
  have same : layersRegistry schema = registry := by
    rw [layersRegistry, Registry.ofRequests, List.foldl_cons, List.foldl_nil, Registry.serve, registered]
    rfl
  rw [same]
  dsimp only [layersRequest] at registered
  rw [ofCollections, built]
  dsimp only
  rw [registered]

/-- One whose base texture lacks it does not. -/
theorem ofCollections_of_not_hasSlot (head : collections.head? = some first)
    (lacks : ¬ first.HasSlot Names.strataChild Names.terrainBaseTextureType) :
    ofCollections collections = .error
      (.propertyEditor (.unknownChild Names.terrainBaseTextureType Names.strataChild)) := by
  obtain ⟨rest, rfl⟩ := List.head?_eq_some_iff.mp head
  have absent : schema.childInfo? schema.tags.terrainBaseTexture Names.strataChild = none := by
    rw [← Schema.exists_childInfo?_iff_hasSlot built (typeId?_terrainBaseTexture built)] at lacks
    exact Option.eq_none_iff_forall_ne_some.mpr fun info has => lacks ⟨info, has⟩
  have refused : Registry.empty.register schema schema.tags.terrainBaseTexture
      (strataDescriptor schema.tags) =
        .error (.unknownChild Names.terrainBaseTextureType Names.strataChild) := by
    rw [Registry.register, show (strataDescriptor schema.tags).slot = Names.strataChild from rfl, absent,
      Schema.typeName_of_typeId? (typeId?_terrainBaseTexture built)]
  rw [ofCollections, built]
  dsimp only
  rw [refused]

/-- The editor is found for a slot exactly of the layers of a base texture. -/
theorem descriptorFor?_layersRegistry_eq_some_iff
    (slotted : first.HasSlot Names.strataChild Names.terrainBaseTextureType) {descriptor : Descriptor} :
    (layersRegistry schema).descriptorFor? schema type slot = some descriptor ↔
      slot = Names.strataChild ∧ schema.isAssignableFrom schema.tags.terrainBaseTexture type = true ∧
        descriptor = strataDescriptor schema.tags := by
  have grounded := Schema.grounded_of_ofCollection built
  have held (owner : TypeId) (name : String) : (layersRegistry schema).get? owner name =
      if (⟨owner, name⟩ : SlotKey) = (layersRequest schema).key then some (strataDescriptor schema.tags)
      else none :=
    Registry.get?_serve_of_accepts ((accepts_layers_iff built).mpr slotted)
  have sound {descriptor : Descriptor}
      (found : (layersRegistry schema).descriptorFor? schema type slot = some descriptor) :
      slot = Names.strataChild ∧
        ReflTransGen (Extends schema.types) type schema.tags.terrainBaseTexture ∧
        descriptor = strataDescriptor schema.tags := by
    obtain ⟨owner, nearest, registered⟩ := (Schema.findSome?_ancestry_eq_some_iff grounded).mp found
    rw [held] at registered
    split at registered
    · next here =>
      cases here
      cases registered
      exact ⟨rfl, nearest.reaches, rfl⟩
    · cases registered
  rw [Schema.isAssignableFrom_iff grounded]
  refine ⟨sound, ?_⟩
  rintro ⟨rfl, reaches, rfl⟩
  cases found : (layersRegistry schema).descriptorFor? schema type Names.strataChild with
  | none =>
    have absent := (Schema.findSome?_ancestry_eq_none_iff grounded).mp found _ reaches
    exact nomatch absent.symm.trans ((held _ _).trans (if_pos rfl))
  | some descriptor => rw [(sound found).2.2]

end Tags

/-- Declarations are refused, or the first are a schema whose base texture has the slot. -/
theorem fault_or_built (collections : List TypeCollection) :
    (∃ error, Fault collections error) ∨
      ∃ first schema, collections.head? = some first ∧ Schema.ofCollection first = .ok schema ∧
        first.HasSlot Names.strataChild Names.terrainBaseTextureType := by
  cases head : collections.head? with
  | none => exact .inl ⟨_, .empty head⟩
  | some first =>
    cases built : Schema.ofCollection first with
    | error error => exact .inl ⟨_, .schema head (Schema.ofCollection_eq_error_iff.mp built)⟩
    | ok schema =>
      by_cases slotted : first.HasSlot Names.strataChild Names.terrainBaseTextureType
      · exact .inr ⟨first, schema, rfl, built, slotted⟩
      · exact .inl ⟨_, .slotless head (Schema.exists_ofCollection_iff.mp ⟨schema, built⟩) slotted⟩

/-- What is refused is refused for its fault. -/
theorem Fault.ofCollections_eq (fault : Fault collections error) :
    ofCollections collections = .error error := by
  cases fault with
  | empty none =>
    rw [List.head?_eq_none_iff.mp none]
    rfl
  | schema head fault =>
    obtain ⟨rest, rfl⟩ := List.head?_eq_some_iff.mp head
    rw [ofCollections, Schema.ofCollection_eq_error_iff.mpr fault]
  | slotless head accepted lacks =>
    obtain ⟨schema, built⟩ := Schema.exists_ofCollection_iff.mpr accepted
    exact ofCollections_of_not_hasSlot built head lacks

/-- Declarations are refused exactly for their fault. -/
theorem ofCollections_eq_error_iff :
    ofCollections collections = .error error ↔ Fault collections error := by
  refine ⟨fun refused => ?_, Fault.ofCollections_eq⟩
  rcases fault_or_built collections with ⟨other, fault⟩ | ⟨first, schema, head, built, slotted⟩
  · cases refused.symm.trans fault.ofCollections_eq
    exact fault
  · exact nomatch refused.symm.trans (ofCollections_of_hasSlot built head slotted)

/-- They make the host of the first of them. -/
theorem ofCollections_eq_ok_iff :
    ofCollections collections = .ok host ↔
      ∃ first, collections.head? = some first ∧ Schema.ofCollection first = .ok host.schema ∧
        first.HasSlot Names.strataChild Names.terrainBaseTextureType ∧
        host.registry = layersRegistry host.schema := by
  constructor
  · intro loaded
    rcases fault_or_built collections with ⟨error, fault⟩ | ⟨first, schema, head, built, slotted⟩
    · exact nomatch loaded.symm.trans fault.ofCollections_eq
    · cases loaded.symm.trans (ofCollections_of_hasSlot built head slotted)
      exact ⟨first, head, built, slotted, rfl⟩
  · rintro ⟨first, head, built, slotted, registered⟩
    rw [ofCollections_of_hasSlot built head slotted, ← registered]

/-- To make a host of type collections. Only the first one counts. A host is made exactly when it is a
schema and its base texture has a slot for layers, its own or an inherited one. Otherwise the fault is
reported, and never one of a slot that has an editor already. In a host, an editor is found for a slot of
a declared type exactly when it is the slot for layers and the type derives from the base texture. -/
theorem ofCollections_loads_or_faults (collections : List TypeCollection) :
    (∀ others : List TypeCollection, others.head? = collections.head? →
      ofCollections others = ofCollections collections) ∧
    ((∃ host, ofCollections collections = .ok host) ↔
      ∃ first, collections.head? = some first ∧ first.Accepted ∧
        first.HasSlot Names.strataChild Names.terrainBaseTextureType) ∧
    (∀ error, ofCollections collections = .error error ↔ Fault collections error) ∧
    (∀ owner slot, ofCollections collections ≠
      .error (.propertyEditor (.duplicateProperty owner slot))) ∧
    ∀ host, ofCollections collections = .ok host →
      ∃ first, collections.head? = some first ∧ Schema.ofCollection first = .ok host.schema ∧
        ∀ name type slot, host.schema.typeId? name = some type →
          ((host.registry.descriptorFor? host.schema type slot).isSome = true ↔
            slot = Names.strataChild ∧
              ReflTransGen first.Bases name Names.terrainBaseTextureType) := by
  refine ⟨fun others same => ?first, ?loads, fun error => ofCollections_eq_error_iff,
    fun owner slot duplicate => ?unique, fun host loaded => ?found⟩
  case first =>
    cases collections with
    | nil => rw [List.head?_eq_none_iff.mp same]
    | cons first rest =>
      obtain ⟨others, rfl⟩ := List.head?_eq_some_iff.mp same
      rfl
  case loads =>
    constructor
    · rintro ⟨host, loaded⟩
      obtain ⟨first, head, built, slotted, -⟩ := ofCollections_eq_ok_iff.mp loaded
      exact ⟨first, head, Schema.exists_ofCollection_iff.mp ⟨_, built⟩, slotted⟩
    · rintro ⟨first, head, accepted, slotted⟩
      obtain ⟨schema, built⟩ := Schema.exists_ofCollection_iff.mpr accepted
      exact ⟨_, ofCollections_of_hasSlot built head slotted⟩
  case unique => exact nomatch ofCollections_eq_error_iff.mp duplicate
  case found =>
    obtain ⟨first, head, built, slotted, registered⟩ := ofCollections_eq_ok_iff.mp loaded
    refine ⟨first, head, built, fun name type slot placed => ?_⟩
    rw [registered, Option.isSome_iff_exists,
      ← Schema.isAssignableFrom_iff_bases built placed (typeId?_terrainBaseTexture built)]
    simp only [descriptorFor?_layersRegistry_eq_some_iff built slotted, exists_and_left, exists_eq,
      and_true]

/-- The types known by name and no others, without slots. -/
def slotless : TypeCollection := ⟨"urn:slotless", Names.required.map TypeDecl.named⟩

/-- The layers of a texture two links below the built-in one have an editor, its cells and a game do not.
Where the base texture has no slot for layers, a second collection that gives it one does not count. -/
theorem ofCollections_loads_or_faults_layered :
    (∃ host, ofCollections [Schema.layered, slotless] = .ok host ∧
      (host.registry.descriptorFor? host.schema ⟨10⟩ Names.strataChild).isSome = true ∧
      (host.registry.descriptorFor? host.schema ⟨10⟩ Names.cellChild).isSome = false) ∧
    ofCollections [slotless, Schema.layered] = .error
      (.propertyEditor (.unknownChild Names.terrainBaseTextureType Names.strataChild)) := by
  have answers : (Schema.ofCollection Schema.layered).toOption.map (fun schema =>
      (schema.typeId? "fineTextureType", schema.isAssignableFrom schema.tags.terrainBaseTexture ⟨10⟩,
        (schema.childInfo? schema.tags.terrainBaseTexture Names.strataChild).isSome)) =
      some (some ⟨10⟩, true, true) := by
    decide +kernel
  obtain ⟨schema, built, answers⟩ := Schema.exists_ofCollection_of_map answers
  simp only [Prod.mk.injEq] at answers
  obtain ⟨placed, derives, slotted⟩ := answers
  have hasSlot := (Schema.exists_childInfo?_iff_hasSlot built (typeId?_terrainBaseTexture built)).mp
    (Option.isSome_iff_exists.mp slotted)
  obtain ⟨-, loads, -, -, found⟩ := ofCollections_loads_or_faults [Schema.layered, slotless]
  obtain ⟨-, -, faults, -, -⟩ := ofCollections_loads_or_faults [slotless, Schema.layered]
  obtain ⟨host, loaded⟩ :=
    loads.mpr ⟨Schema.layered, rfl, Schema.exists_ofCollection_iff.mp ⟨schema, built⟩, hasSlot⟩
  obtain ⟨first, head, same, edits⟩ := found host loaded
  cases head
  cases built.symm.trans same
  have below :=
    (Schema.isAssignableFrom_iff_bases built placed (typeId?_terrainBaseTexture built)).mp derives
  refine ⟨⟨host, loaded, (edits _ _ _ placed).mpr ⟨rfl, below⟩, ?_⟩, (faults _).mpr (.slotless rfl ?_ ?_)⟩
  · rw [Bool.eq_false_iff, ne_eq, edits _ _ _ placed]
    exact fun both => absurd both.1 (by decide)
  · have accepted : (Schema.ofCollection slotless).toOption.map (fun schema => schema.size) = some 6 := by
      decide +kernel
    obtain ⟨schema, built, -⟩ := Schema.exists_ofCollection_of_map accepted
    exact Schema.exists_ofCollection_iff.mp ⟨schema, built⟩
  · rintro ⟨decl, listed, -, child, declared, -⟩
    obtain ⟨name, -, rfl⟩ := List.mem_map.mp listed
    cases declared

/-- Whatever the editor found for a slot inserts is of a type that the slot takes. -/
def InsertsFitting (host : Host) (type : TypeId) (slot : String) : Prop :=
  ∀ descriptor editor info, host.registry.descriptorFor? host.schema type slot = some descriptor →
    descriptor.editor = some editor → host.schema.childInfo? type slot = some info →
    ∀ (doc : Document) (owner fresh : NodeId) (node item : Node) (left : Document),
      doc.node? owner = some node → node.type = type → doc.contains fresh = false →
      editor.insert doc owner slot fresh = some left → left.node? fresh = some item →
      host.schema.isAssignableFrom info.childType item.type = true

/-- An editor inserts a new node of its type behind those that are in the slot. -/
theorem exists_insert (editor : CollectionEditor) {doc : Document} {owner fresh : NodeId} {node : Node}
    (held : doc.node? owner = some node) (new : doc.contains fresh = false) (slot : String) :
    ∃ left, editor.insert doc owner slot fresh = some left ∧
      left.children owner slot = doc.children owner slot ++ [fresh] ∧
      left.node? fresh = some (Node.bare editor.itemType (some owner)) := by
  have different : owner ≠ fresh := by
    rintro rfl
    rw [Document.contains, held] at new
    cases new
  have inSlot : doc.children owner slot = node.slot slot := by rw [Document.children, held]
  let written : Node := { node with children := node.children.insert slot (node.slot slot ++ [fresh]) }
  let nodes := (doc.nodes.insert owner written).insert fresh (Node.bare editor.itemType (some owner))
  have atOwner : nodes.find? owner = some written := by
    rw [Table.find?_insert, if_neg different, Table.find?_insert, if_pos rfl]
  have atFresh : nodes.find? fresh = some (Node.bare editor.itemType (some owner)) := by
    rw [Table.find?_insert, if_pos rfl]
  refine ⟨{ doc with nodes := nodes, dirty := true }, ?_, ?_, atFresh⟩
  · rw [CollectionEditor.insert, Document.append, held]
    rfl
  · rw [inSlot]
    exact Document.children_of_written atOwner

/-- The editor of the layers of a texture fits when the type of its items is, or derives from, that of the
slot. -/
theorem insertsFitting_iff {info : ChildInfo} (built : Schema.ofCollection first = .ok host.schema)
    (slotted : first.HasSlot Names.strataChild Names.terrainBaseTextureType)
    (registered : host.registry = layersRegistry host.schema)
    (derives : host.schema.isAssignableFrom host.schema.tags.terrainBaseTexture type = true)
    (has : host.schema.childInfo? type Names.strataChild = some info) :
    host.InsertsFitting type Names.strataChild ↔
      host.schema.isAssignableFrom info.childType host.schema.tags.terrainBaseTextureStrata = true := by
  have found := (descriptorFor?_layersRegistry_eq_some_iff built slotted).mpr ⟨rfl, derives, rfl⟩
  rw [← registered] at found
  constructor
  · intro fits
    let doc := Document.create default (Uuid.ofNat 0) "" type
    have held : doc.node? (Uuid.ofNat 0) = some (Node.bare type none) :=
      (Table.find?_insert ..).trans (if_pos rfl)
    have new : doc.contains (Uuid.ofNat 1) = false := by
      rw [Document.contains, Document.node?]
      exact congrArg Option.isSome ((Table.find?_insert ..).trans (if_neg (by decide)))
    obtain ⟨left, inserted, -, there⟩ :=
      exists_insert ⟨"Strata", host.schema.tags.terrainBaseTextureStrata⟩ held new Names.strataChild
    exact fits _ _ info found rfl has doc _ _ _ _ left held rfl new inserted there
  · intro fits descriptor editor other others edits hasOther doc owner fresh node item left held _ new
      inserted there
    cases has.symm.trans hasOther
    cases found.symm.trans others
    cases edits
    obtain ⟨same, sameInserted, -, bare⟩ := exists_insert _ held new Names.strataChild
    cases inserted.symm.trans sameInserted
    cases there.symm.trans bare
    exact fits

/-- Every base texture of a host has an editor for its layers. The editor inserts layers of the built-in
type, last in the slot. They fit the slot of a texture exactly when names of bases lead from the built-in
type to that of the slot. They fit all slots for layers exactly when this holds of the slot that the
built-in base texture has and of every one that a texture declares which derives from it. -/
theorem insert_fits_iff (loaded : ofCollections collections = .ok host) :
    ∃ first, collections.head? = some first ∧ Schema.ofCollection first = .ok host.schema ∧
      (∀ type, host.schema.isAssignableFrom host.schema.tags.terrainBaseTexture type = true →
        ∃ descriptor editor info,
          host.registry.descriptorFor? host.schema type Names.strataChild = some descriptor ∧
          descriptor.editor = some editor ∧
          host.schema.childInfo? type Names.strataChild = some info ∧
          (∀ (doc : Document) (owner fresh : NodeId) (node : Node), doc.node? owner = some node →
            node.type = type → doc.contains fresh = false →
            ∃ left item, editor.insert doc owner Names.strataChild fresh = some left ∧
              left.children owner Names.strataChild =
                doc.children owner Names.strataChild ++ [fresh] ∧
              left.node? fresh = some item ∧
              host.schema.typeName item.type = Names.terrainBaseTextureStrataType) ∧
          (host.InsertsFitting type Names.strataChild ↔
            ReflTransGen first.Bases Names.terrainBaseTextureStrataType
              (host.schema.typeName info.childType))) ∧
      ((∀ type, host.schema.isAssignableFrom host.schema.tags.terrainBaseTexture type = true →
          host.InsertsFitting type Names.strataChild) ↔
        (∀ info, host.schema.childInfo? host.schema.tags.terrainBaseTexture Names.strataChild = some info →
          ReflTransGen first.Bases Names.terrainBaseTextureStrataType
            (host.schema.typeName info.childType)) ∧
        ∀ below info,
          host.schema.isAssignableFrom host.schema.tags.terrainBaseTexture below = true →
          host.schema.FirstSlot Names.strataChild below info →
          ReflTransGen first.Bases Names.terrainBaseTextureStrataType
            (host.schema.typeName info.childType)) := by
  obtain ⟨first, head, built, slotted, registered⟩ := ofCollections_eq_ok_iff.mp loaded
  have grounded := Schema.grounded_of_ofCollection built
  have has {type : TypeId}
      (derives : host.schema.isAssignableFrom host.schema.tags.terrainBaseTexture type = true) :
      ∃ info, host.schema.childInfo? type Names.strataChild = some info := by
    obtain ⟨info, ofTexture⟩ :=
      (Schema.exists_childInfo?_iff_hasSlot built (typeId?_terrainBaseTexture built)).mpr slotted
    exact Schema.exists_childInfo?_of_derives grounded
      ((Schema.isAssignableFrom_iff grounded).mp derives) ofTexture
  have fits {type : TypeId} {info : ChildInfo}
      (derives : host.schema.isAssignableFrom host.schema.tags.terrainBaseTexture type = true)
      (found : host.schema.childInfo? type Names.strataChild = some info) :
      host.InsertsFitting type Names.strataChild ↔
        ReflTransGen first.Bases Names.terrainBaseTextureStrataType
          (host.schema.typeName info.childType) := by
    obtain ⟨_, -, declares⟩ := (Schema.childInfo?_eq_some_iff grounded).mp found
    have declared := Schema.declared_childType built declares
    rw [insertsFitting_iff built slotted registered derives found]
    refine Schema.isAssignableFrom_iff_bases built (typeId?_terrainBaseTextureStrata built) ?_
    exact ((Schema.indexes_of_ofCollection built).inverse _ _).mpr ⟨declared, rfl⟩
  refine ⟨first, head, built, fun type derives => ?each, ?all⟩
  case each =>
    obtain ⟨info, found⟩ := has derives
    have edited := (descriptorFor?_layersRegistry_eq_some_iff built slotted).mpr ⟨rfl, derives, rfl⟩
    refine ⟨_, _, info, registered ▸ edited, rfl, found, ?_, fits derives found⟩
    intro doc owner fresh node held _ new
    obtain ⟨left, inserted, last, there⟩ := exists_insert _ held new Names.strataChild
    have named := Schema.typeName_of_typeId? (typeId?_terrainBaseTextureStrata built)
    exact ⟨left, _, inserted, last, there, named⟩
  case all =>
    rw [← Schema.forall_childInfo?_below_iff grounded]
    constructor
    · exact fun all type info derives found => (fits derives found).mp (all type derives)
    · intro all type derives
      obtain ⟨info, found⟩ := has derives
      exact (fits derives found).mpr (all type info derives found)

/-- Where a texture that derives from the built-in one has layers of a kind of its own, the editor inserts
one of the built-in kind all the same, and it does not fit. -/
theorem insert_misfits_layered :
    ∃ host, ofCollections [Schema.layered] = .ok host ∧
      host.schema.isAssignableFrom host.schema.tags.terrainBaseTexture ⟨8⟩ = true ∧
      ¬ host.InsertsFitting ⟨8⟩ Names.strataChild := by
  have answers : (ofCollections [Schema.layered]).toOption.map (fun host =>
      (host.schema.isAssignableFrom host.schema.tags.terrainBaseTexture ⟨8⟩,
        host.schema.childInfo? ⟨8⟩ Names.strataChild,
        host.schema.isAssignableFrom ⟨9⟩ host.schema.tags.terrainBaseTextureStrata)) =
      some (true, some ⟨Names.strataChild, ⟨9⟩, true⟩, false) := by
    decide +kernel
  obtain ⟨host, loaded, answers⟩ := exists_ok_of_map answers
  simp only [Prod.mk.injEq] at answers
  obtain ⟨derives, layers, misfits⟩ := answers
  obtain ⟨first, -, built, slotted, registered⟩ := ofCollections_eq_ok_iff.mp loaded
  refine ⟨host, loaded, derives, ?_⟩
  rw [insertsFitting_iff built slotted registered derives layers, misfits]
  exact Bool.false_ne_true

/-- In the built-in texture of such declarations what is inserted fits. The texture of the other kind gets
a layer of the built-in type, and not all textures get layers that fit. -/
theorem insert_fits_iff_layered :
    ∃ host, ofCollections [Schema.layered] = .ok host ∧
      host.InsertsFitting ⟨6⟩ Names.strataChild ∧
      (∃ (editor : CollectionEditor) (left : Document) (item : Node),
        editor.insert (.create default (Uuid.ofNat 0) "a" ⟨8⟩) (Uuid.ofNat 0) Names.strataChild
          (Uuid.ofNat 1) = some left ∧
        left.node? (Uuid.ofNat 1) = some item ∧
        host.schema.typeName item.type = Names.terrainBaseTextureStrataType) ∧
      ¬ ∀ type, host.schema.isAssignableFrom host.schema.tags.terrainBaseTexture type = true →
        host.InsertsFitting type Names.strataChild := by
  have answers : (ofCollections [Schema.layered]).toOption.map (fun host =>
      ([⟨6⟩, ⟨8⟩].map (host.schema.isAssignableFrom host.schema.tags.terrainBaseTexture),
        [host.schema.childInfo? ⟨6⟩ Names.strataChild, host.schema.ownChild? ⟨8⟩ Names.strataChild],
        host.schema.typeName ⟨7⟩, host.schema.typeId? "detailStrataType",
        host.schema.isAssignableFrom ⟨9⟩ host.schema.tags.terrainBaseTextureStrata)) =
      some ([true, true],
        [some ⟨Names.strataChild, ⟨7⟩, true⟩, some ⟨Names.strataChild, ⟨9⟩, true⟩],
        Names.terrainBaseTextureStrataType, some ⟨9⟩, false) := by
    decide +kernel
  obtain ⟨host, loaded, answers⟩ := exists_ok_of_map answers
  simp only [Prod.mk.injEq, List.map_cons, List.cons.injEq] at answers
  obtain ⟨⟨builtin, detail, -⟩, ⟨layers, ownLayers, -⟩, layerName, placed, misfits⟩ := answers
  obtain ⟨first, -, built, each, all⟩ := insert_fits_iff loaded
  obtain ⟨-, -, info, -, -, found, -, fits⟩ := each _ builtin
  obtain ⟨-, editor, -, -, -, -, inserts, -⟩ := each _ detail
  obtain ⟨left, item, inserted, -, there, named⟩ :=
    inserts (.create default (Uuid.ofNat 0) "a" ⟨8⟩) (Uuid.ofNat 0) (Uuid.ofNat 1)
      (Node.bare ⟨8⟩ none) (by decide +kernel) rfl (by decide +kernel)
  refine ⟨host, loaded, fits.mpr ?_, ⟨editor, left, item, inserted, there, named⟩, fun fitting => ?_⟩
  · cases layers.symm.trans found
    rw [layerName]
  · have way := (all.mp fitting).2 _ _ detail (Schema.ownChild?_eq_some_iff.mp ownLayers)
    rw [Schema.typeName_of_typeId? placed] at way
    have derives := (Schema.isAssignableFrom_iff_bases built (typeId?_terrainBaseTextureStrata built)
      placed).mpr way
    exact Bool.false_ne_true (misfits.symm.trans derives)

end Host

end LevelGraph
