import LevelGraph.Proofs.Schema.Inheritance

/-!
# Slots by name

Whether a type derives from another one, and whether it has a slot, can be read off the declarations as
they are written. A type derives from another when names of bases lead there, and it has a slot when one
of the types on that way declares it. A schema that is built from the declarations answers likewise,
although it follows indices and looks for the nearest type only.
-/

namespace LevelGraph

open Relation

variable {collection : TypeCollection} {derived base owner slot : String} {id above : TypeId}

/-- A definition has a slot of a name of its own when its declaration has one. -/
theorem TypeDef.Mirrors.declares_iff {find : String → Option TypeId} {decl : TypeDecl}
    {definition : TypeDef} (mirrors : definition.Mirrors find decl) :
    (∃ child ∈ definition.children, child.name = slot) ↔
      ∃ child ∈ decl.children, child.name = slot := by
  have sameNames : decl.children.map (·.name) = definition.children.map (·.name) := by
    rw [← List.forall₂_eq_eq_eq, List.forall₂_map_left_iff, List.forall₂_map_right_iff]
    exact mirrors.children.imp fun _ _ mirrors => mirrors.name.symm
  rw [← List.mem_map, ← List.mem_map, sameNames]

namespace TypeCollection

/-- A declared type has a slot of a name, its own or that of a type that it derives from. -/
def HasSlot (collection : TypeCollection) (slot owner : String) : Prop :=
  ∃ decl ∈ collection.types, ReflTransGen collection.Bases owner decl.name ∧
    ∃ child ∈ decl.children, child.name = slot

/-- No two names are found at one place. -/
theorem eq_of_typeId? (distinct : collection.names.Nodup) {name other : String}
    (first : collection.typeId? name = some id) (second : collection.typeId? other = some id) :
    name = other := by
  obtain ⟨decl, here, rfl⟩ := (typeId?_eq_some_iff distinct).mp first
  obtain ⟨same, there, rfl⟩ := (typeId?_eq_some_iff distinct).mp second
  rw [Option.some.inj (here.symm.trans there)]

namespace Indexed

variable {types : List TypeDef} (indexed : collection.Indexed types)

include indexed

/-- Where names lead, indices lead. -/
theorem reaches_of_bases (way : ReflTransGen collection.Bases derived base)
    (placed : collection.typeId? derived = some id) :
    ∃ above, collection.typeId? base = some above ∧ ReflTransGen (Extends types) id above := by
  induction way with
  | refl => exact ⟨id, placed, .refl⟩
  | tail _ bases inductionHypothesis =>
    obtain ⟨middle, middleAt, reaches⟩ := inductionHypothesis
    obtain ⟨same, above, sameAt, baseAt, link⟩ := indexed.extends_of_bases bases
    cases middleAt.symm.trans sameAt
    exact ⟨above, baseAt, reaches.tail link⟩

/-- Where indices lead, names lead. -/
theorem bases_of_reaches (reaches : ReflTransGen (Extends types) id above)
    (placed : collection.typeId? derived = some id) :
    ∃ base, collection.typeId? base = some above ∧ ReflTransGen collection.Bases derived base := by
  rcases reflTransGen_iff_eq_or_transGen.mp reaches with rfl | further
  · exact ⟨derived, placed, .refl⟩
  · obtain ⟨base, baseAt, way⟩ := indexed.transGen_of_extends further placed
    exact ⟨base, baseAt, way.to_reflTransGen⟩

end Indexed

end TypeCollection

namespace Schema

open TypeCollection

variable {schema : Schema}

/-- What holds of a slot of every type that derives from another one holds of the slot that this one has,
and of every slot of the name that one of them declares. No more is needed, for the slot of a type is
declared below the other one, or the other one has it too. -/
theorem forall_childInfo?_below_iff (grounded : schema.Grounded) {upper : TypeId}
    {property : ChildInfo → Prop} :
    (∀ type info, schema.isAssignableFrom upper type = true → schema.childInfo? type slot = some info →
        property info) ↔
      (∀ info, schema.childInfo? upper slot = some info → property info) ∧
        ∀ below info, schema.isAssignableFrom upper below = true → schema.FirstSlot slot below info →
          property info := by
  simp only [isAssignableFrom_iff grounded, childInfo?_eq_some_iff grounded]
  constructor
  · intro all
    refine ⟨fun info => all upper info .refl, fun below info derives first => all below info derives ?_⟩
    have declares : schema.DeclaresSlot slot below :=
      isSome_ownChild?_iff.mp (Option.isSome_iff_exists.mpr ⟨info, ownChild?_eq_some_iff.mpr first⟩)
    exact ⟨below, .self grounded declares, first⟩
  · rintro ⟨ofUpper, ofBelow⟩ type info derives ⟨nearest, isNearest, first⟩
    rcases reaches_total isNearest.reaches derives with further | above
    · exact ofBelow nearest info further first
    · refine ofUpper info ⟨nearest, ⟨above, isNearest.holds, fun between reaches => ?_⟩, first⟩
      exact isNearest.first between (derives.trans reaches)

section Built

variable (built : Schema.ofCollection collection = .ok schema)

include built

/-- A type derives from another one when names of bases lead there. -/
theorem isAssignableFrom_iff_bases (placed : schema.typeId? derived = some id)
    (baseAt : schema.typeId? base = some above) :
    schema.isAssignableFrom above id = true ↔ ReflTransGen collection.Bases derived base := by
  have indexed := indexed_of_ofCollection built
  rw [isAssignableFrom_iff (grounded_of_ofCollection built)]
  rw [typeId?_eq_of_ofCollection built] at placed baseAt
  constructor
  · intro reaches
    obtain ⟨found, foundAt, way⟩ := indexed.bases_of_reaches reaches placed
    exact eq_of_typeId? indexed.distinct foundAt baseAt ▸ way
  · intro way
    obtain ⟨found, foundAt, reaches⟩ := indexed.reaches_of_bases way placed
    exact Option.some.inj (foundAt.symm.trans baseAt) ▸ reaches

/-- A type has a slot when a type that it derives from declares one of the name. -/
theorem exists_childInfo?_iff_hasSlot (placed : schema.typeId? owner = some id) :
    (∃ info, schema.childInfo? id slot = some info) ↔ collection.HasSlot slot owner := by
  have indexed := indexed_of_ofCollection built
  have grounded := grounded_of_ofCollection built
  rw [typeId?_eq_of_ofCollection built] at placed
  constructor
  · rintro ⟨info, has⟩
    obtain ⟨nearest, isNearest, definition, found, first⟩ := (childInfo?_eq_some_iff grounded).mp has
    obtain ⟨base, baseAt, way⟩ := indexed.bases_of_reaches isNearest.reaches placed
    obtain ⟨decl, declared, rfl⟩ := (TypeCollection.typeId?_eq_some_iff indexed.distinct).mp baseAt
    obtain ⟨same, sameFound, mirrors⟩ := indexed.exists_definition declared
    cases found.symm.trans sameFound
    have declares := mirrors.declares_iff.mp ⟨info, first.mem, first.holds⟩
    exact ⟨decl, List.mem_of_getElem? declared, way, declares⟩
  · rintro ⟨decl, listed, way, declares⟩
    obtain ⟨above, aboveAt, reaches⟩ := indexed.reaches_of_bases way placed
    obtain ⟨index, declared⟩ := List.getElem?_of_mem listed
    have here : collection.typeId? decl.name = some ⟨index⟩ :=
      (TypeCollection.typeId?_eq_some_iff indexed.distinct).mpr ⟨decl, declared, rfl⟩
    cases aboveAt.symm.trans here
    obtain ⟨definition, found, mirrors⟩ := indexed.exists_definition declared
    rw [← Option.isSome_iff_exists, ← Option.ne_none_iff_isSome, ne_eq, childInfo?_eq_none_iff grounded]
    exact fun lacking => lacking _ reaches ⟨definition, found, mirrors.declares_iff.mpr declares⟩

end Built

end Schema

end LevelGraph
