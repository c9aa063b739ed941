import LevelGraph.Schema.Indexing

/-!
# Names in schemas

A schema built from a type collection gives no two types one name, so a declared type is
found again by its name.
-/

namespace LevelGraph

/-- No two types have one name. -/
def Schema.DistinctNames (schema : Schema) : Prop := (schema.types.map (·.name)).Nodup

/-- Where names are distinct, a name is found at the place of what has it. -/
theorem findIdx?_name_eq_some_iff {α : Type} {list : List α} {nameOf : α → String}
    (distinct : (list.map nameOf).Nodup) {name : String} {index : Nat} :
    list.findIdx? (fun item => nameOf item == name) = some index ↔
      ∃ item, list[index]? = some item ∧ nameOf item = name := by
  rw [List.findIdx?_eq_some_iff_getElem]
  constructor
  · rintro ⟨inside, here, -⟩
    exact ⟨list[index], List.getElem?_eq_getElem inside, eq_of_beq here⟩
  · rintro ⟨item, found, rfl⟩
    obtain ⟨inside, rfl⟩ := List.getElem?_eq_some_iff.mp found
    refine ⟨inside, beq_self_eq_true _, fun earlier before same => ?_⟩
    exact List.pairwise_iff_getElem.mp (List.pairwise_map.mp distinct) earlier index
      (Nat.lt_trans before inside) inside before (eq_of_beq same)

/-- A declared type is found by its name. -/
theorem Schema.typeId?_typeName {schema : Schema} (distinct : schema.DistinctNames) {type : TypeId}
    (declared : (schema.typeDef? type).isSome = true) :
    schema.typeId? (schema.typeName type) = some type := by
  obtain ⟨definition, found⟩ := Option.isSome_iff_exists.mp declared
  have place : schema.types.findIdx? (fun other => other.name == definition.name) =
      some type.index := (findIdx?_name_eq_some_iff distinct).mpr ⟨definition, found, rfl⟩
  simp only [Schema.typeId?, Schema.typeName, found, place, Option.map_some]

/-- A type found by name is declared. -/
theorem Schema.declared_of_typeId? {schema : Schema} {name : String} {type : TypeId}
    (found : schema.typeId? name = some type) : (schema.typeDef? type).isSome = true := by
  obtain ⟨index, place, same⟩ := Option.map_eq_some_iff.mp found
  subst same
  obtain ⟨inside, -⟩ := List.findIdx?_eq_some_iff_getElem.mp place
  simp [Schema.typeDef?, inside]

/-- Names among which none is repeated are distinct. -/
theorem nodup_of_firstRepeated? {seen names : List String} (unrepeated : firstRepeated? seen names = none) :
    names.Nodup ∧ ∀ name ∈ names, name ∉ seen := by
  induction names generalizing seen with
  | nil => exact ⟨List.nodup_nil, fun _ listed => nomatch listed⟩
  | cons name rest inductionHypothesis =>
    rw [firstRepeated?] at unrepeated
    split at unrepeated
    · cases unrepeated
    · next new =>
      have unseen : name ∉ seen := fun listed => new (List.contains_iff_mem.mpr listed)
      obtain ⟨distinct, apart⟩ := inductionHypothesis unrepeated
      refine ⟨List.nodup_cons.mpr ⟨?_, distinct⟩, List.forall_mem_cons.mpr ⟨unseen, ?_⟩⟩
      · exact fun again => apart name again List.mem_cons_self
      · exact fun later listed old => apart later listed (List.mem_cons_of_mem _ old)

/-- Types keep their names and their order when their references are resolved. -/
theorem TypeDecl.names_of_resolveAll {collection : TypeCollection} {decls : List TypeDecl}
    {types : List TypeDef} (done : TypeDecl.resolveAll collection decls = .ok types) :
    types.map (·.name) = decls.map (·.name) := by
  induction decls generalizing types with
  | nil =>
    cases done
    rfl
  | cons decl rest inductionHypothesis =>
    rw [TypeDecl.resolveAll] at done
    split at done
    · cases done
    · next definition resolved =>
      split at done
      · cases done
      · next definitions later =>
        cases done
        have named : definition.name = decl.name := by
          unfold TypeDecl.resolve at resolved
          split at resolved
          · cases resolved
          · split at resolved
            · cases resolved
            · cases resolved
              rfl
        rw [List.map_cons, List.map_cons, named, inductionHypothesis later]

/-- A schema is built when none of the four stages finds a fault, and from what they yield. -/
theorem Schema.ofCollection_eq_ok_iff {collection : TypeCollection} {schema : Schema} :
    Schema.ofCollection collection = .ok schema ↔
      firstRepeated? [] (collection.types.map (·.name)) = none ∧
      TypeDecl.resolveAll collection collection.types = .ok schema.types ∧
      firstEndless? schema.types = none ∧ collection.findTags = .ok schema.tags ∧
      schema.targetNamespace = collection.targetNamespace := by
  obtain ⟨targetNamespace, types, tags⟩ := schema
  unfold Schema.ofCollection
  cases firstRepeated? [] (collection.types.map (·.name)) with
  | some name => simp
  | none =>
    cases TypeDecl.resolveAll collection collection.types with
    | error error => simp
    | ok resolved =>
      dsimp only
      by_cases same : resolved = types
      · subst same
        cases firstEndless? resolved with
        | some definition => simp
        | none =>
          cases collection.findTags with
          | error error => simp
          | ok found => simp [and_comm, eq_comm]
      · split
        · simp [same]
        · split <;> simp [same]

/-- Answers that were computed are those of a result, which is no error. -/
theorem exists_ok_of_map {ε β α : Type} {result : Except ε β} {ask : β → α} {answers : α}
    (computed : result.toOption.map ask = some answers) :
    ∃ value, result = .ok value ∧ ask value = answers := by
  cases result with
  | error error => cases computed
  | ok value => exact ⟨value, rfl, Option.some.inj computed⟩

/-- So those of a schema are, and the collection was accepted. -/
theorem Schema.exists_ofCollection_of_map {collection : TypeCollection} {α : Type} {ask : Schema → α}
    {answers : α} (computed : (Schema.ofCollection collection).toOption.map ask = some answers) :
    ∃ schema, Schema.ofCollection collection = .ok schema ∧ ask schema = answers :=
  exists_ok_of_map computed

/-- A collection with a repeated type name is refused, so the names of a schema are distinct. -/
theorem Schema.distinctNames_of_ofCollection {collection : TypeCollection} {schema : Schema}
    (done : Schema.ofCollection collection = .ok schema) : schema.DistinctNames := by
  obtain ⟨unrepeated, resolved, -⟩ := Schema.ofCollection_eq_ok_iff.mp done
  rw [Schema.DistinctNames, TypeDecl.names_of_resolveAll resolved]
  exact (nodup_of_firstRepeated? unrepeated).1

/-- The schema of the built-in declarations. -/
def Schema.builtin : Schema :=
  match Schema.ofCollection TypeCollection.baseline with
  | .ok schema => schema
  | .error _ => ⟨"", [], ⟨⟨0⟩, ⟨1⟩, ⟨2⟩, ⟨3⟩, ⟨4⟩, ⟨5⟩⟩⟩

/-- The built-in declarations are accepted. -/
theorem Schema.ofCollection_baseline :
    Schema.ofCollection TypeCollection.baseline = .ok Schema.builtin := by
  have accepted : (Schema.ofCollection TypeCollection.baseline).toOption.isSome = true := by
    decide +kernel
  unfold Schema.builtin
  split
  · assumption
  · next refused =>
    rw [refused] at accepted
    cases accepted

end LevelGraph
