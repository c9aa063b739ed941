import LevelGraph.Proofs.Schema.Chains
import LevelGraph.Proofs.Schema.Resolution
import Mathlib.Data.List.Find
import Mathlib.Tactic.ByContra

/-!
# Which declarations are a schema

Declarations are accepted when their names are distinct, each of them resolves, no base chain runs
in a loop and the six types known by name are declared. `Accepted` says so of the declarations as
they are written, by name and without any bound. Otherwise there is a first fault, and `Fault` says
which: each kind of fault counts only where no kind before it occurs.

Chains are followed by index, while `Bases` links names. Names and indices of declared types belong
together one to one, so a chain of the one kind ends when the chain of the other kind does. What is
built from accepted declarations indexes them: `Indexes` relates every definition to its
declaration and every name to its index.
-/

namespace LevelGraph

open Relation

/-- The names of the types known by name, in the order in which their absence is reported. -/
def Names.required : List String :=
  [gameType, placementsFolderType, placementsCellReferenceType, placementsDocumentType,
    terrainBaseTextureType, terrainBaseTextureStrataType]

/-- The types known by name, in the same order. -/
def SchemaTags.ids (tags : SchemaTags) : List TypeId :=
  [tags.game, tags.placementsFolder, tags.placementsCellReference, tags.placementsDocument,
    tags.terrainBaseTexture, tags.terrainBaseTextureStrata]

namespace TypeCollection

variable {collection : TypeCollection} {types : List TypeDef} {name : String} {error : SchemaError}

/-- A declared type names another one as its base. -/
def Bases (collection : TypeCollection) (derived base : String) : Prop :=
  ∃ decl ∈ collection.types, decl.name = derived ∧ decl.base = some base

/-- From a name one can go on from base to base for ever. -/
def Endless (collection : TypeCollection) (name : String) : Prop :=
  ∃ chain : Nat → String, chain 0 = name ∧ ∀ link, collection.Bases (chain link) (chain (link + 1))

/-- The declarations make up a schema. -/
structure Accepted (collection : TypeCollection) : Prop where
  /-- No two types have one name. -/
  distinct : collection.names.Nodup
  /-- Every base and every type of a slot is declared. -/
  resolves : ∀ decl ∈ collection.types, collection.Resolves decl
  /-- No type is among the types that it derives from. -/
  unlooped : ∀ name, ¬ TransGen collection.Bases name name
  /-- The types known by name are declared. -/
  tagged : ∀ name ∈ Names.required, name ∈ collection.names

/-- The first fault of declarations that make up no schema. -/
inductive Fault (collection : TypeCollection) : SchemaError → Prop where
  /-- A name repeats an earlier one, and none before it does. -/
  | repeated {earlier later : List String} {name : String}
      (listed : collection.names = earlier ++ name :: later) (new : earlier.Nodup)
      (again : name ∈ earlier) : Fault collection (.duplicateType name)
  /-- A type does not resolve, and it is the first. -/
  | unresolved {decl : TypeDecl} {error : SchemaError} (distinct : collection.names.Nodup)
      (first : IsFirst (fun decl => ¬ collection.Resolves decl) collection.types decl)
      (fault : collection.Unresolved decl error) : Fault collection error
  /-- The base chain of a type never ends, and it is the first such type. -/
  | endless {name : String} (distinct : collection.names.Nodup)
      (resolves : ∀ decl ∈ collection.types, collection.Resolves decl)
      (first : IsFirst collection.Endless collection.names name) :
      Fault collection (.cyclicBaseType name)
  /-- A type known by name is not declared, and it is the first such type. -/
  | missing {name : String} (distinct : collection.names.Nodup)
      (resolves : ∀ decl ∈ collection.types, collection.Resolves decl)
      (unlooped : ∀ name, ¬ TransGen collection.Bases name name)
      (first : IsFirst (fun name => name ∉ collection.names) Names.required name) :
      Fault collection (.missingType name)

/-- A name is endless unless base links end there. -/
theorem endless_iff : collection.Endless name ↔
    ¬ Acc (fun base derived => collection.Bases derived base) name := by
  rw [not_acc_iff_exists_descending_chain]
  rfl

/-- Definitions that mirror the declarations, each at the place of its own. -/
structure Indexed (collection : TypeCollection) (types : List TypeDef) : Prop where
  /-- No two types have one name. -/
  distinct : collection.names.Nodup
  /-- The definitions mirror the declarations in order. -/
  mirrors : List.Forall₂ (TypeDef.Mirrors collection.typeId?) collection.types types

namespace Indexed

variable (indexed : collection.Indexed types)

include indexed

/-- A declared type has a definition at the place of its declaration. -/
theorem exists_definition {index : Nat} {decl : TypeDecl}
    (declared : collection.types[index]? = some decl) :
    ∃ definition, types[index]? = some definition ∧
      definition.Mirrors collection.typeId? decl := by
  obtain ⟨inside, rfl⟩ := List.getElem?_eq_some_iff.mp declared
  obtain ⟨length, each⟩ := List.forall₂_iff_get.mp indexed.mirrors
  have insideTypes : index < types.length := length ▸ inside
  exact ⟨types[index], List.getElem?_eq_getElem insideTypes, each index inside insideTypes⟩

/-- And a definition stands at the place of a declaration. -/
theorem exists_decl {index : Nat} {definition : TypeDef} (found : types[index]? = some definition) :
    ∃ decl, collection.types[index]? = some decl ∧
      definition.Mirrors collection.typeId? decl := by
  obtain ⟨inside, rfl⟩ := List.getElem?_eq_some_iff.mp found
  obtain ⟨length, each⟩ := List.forall₂_iff_get.mp indexed.mirrors
  have insideDecls : index < collection.types.length := length ▸ inside
  exact ⟨collection.types[index], List.getElem?_eq_getElem insideDecls, each index insideDecls inside⟩

/-- What names link, indices link. -/
theorem extends_of_bases {derived base : String} (bases : collection.Bases derived base) :
    ∃ id above, collection.typeId? derived = some id ∧ collection.typeId? base = some above ∧
      Extends types id above := by
  obtain ⟨decl, listed, rfl, declares⟩ := bases
  obtain ⟨index, declared⟩ := List.getElem?_of_mem listed
  obtain ⟨definition, found, mirrors⟩ := indexed.exists_definition declared
  have same := mirrors.base
  rw [declares] at same
  cases link : definition.base with
  | none =>
    rw [link] at same
    cases same
  | some above =>
    rw [link] at same
    cases same with
    | some placed =>
      refine ⟨⟨index⟩, above, (typeId?_eq_some_iff indexed.distinct).mpr ⟨decl, declared, rfl⟩,
        placed, ?_⟩
      rw [Extends, baseIn, found, Option.bind_some, link]

/-- What indices link, names link. -/
theorem bases_of_extends {derived : String} {id above : TypeId}
    (placed : collection.typeId? derived = some id) (link : Extends types id above) :
    ∃ base, collection.typeId? base = some above ∧ collection.Bases derived base := by
  obtain ⟨decl, declared, rfl⟩ := (typeId?_eq_some_iff indexed.distinct).mp placed
  obtain ⟨definition, found, mirrors⟩ := indexed.exists_definition declared
  rw [Extends, baseIn, found, Option.bind_some] at link
  have same := mirrors.base
  rw [link] at same
  cases declares : decl.base with
  | none =>
    rw [declares] at same
    cases same
  | some base =>
    rw [declares] at same
    cases same with
    | some baseAt => exact ⟨base, baseAt, decl, List.mem_of_getElem? declared, rfl, declares⟩

/-- The chain of a name ends when the chain of its index does. -/
theorem acc_iff_ends {id : TypeId} (placed : collection.typeId? name = some id) :
    Acc (fun base derived => collection.Bases derived base) name ↔ Ends types id := by
  constructor
  · intro acc
    induction acc generalizing id with
    | intro name _ inductionHypothesis =>
      constructor
      intro above link
      obtain ⟨base, baseAt, bases⟩ := indexed.bases_of_extends placed link
      exact inductionHypothesis base bases baseAt
  · intro ends
    induction ends generalizing name with
    | intro id _ inductionHypothesis =>
      constructor
      intro base bases
      obtain ⟨here, above, hereAt, baseAt, link⟩ := indexed.extends_of_bases bases
      rw [placed, Option.some.injEq] at hereAt
      exact inductionHypothesis above (hereAt ▸ link) baseAt

/-- A loop of indices is one of names. -/
theorem transGen_of_extends {id above : TypeId} (link : TransGen (Extends types) id above)
    (placed : collection.typeId? name = some id) :
    ∃ base, collection.typeId? base = some above ∧ TransGen collection.Bases name base := by
  induction link with
  | single link =>
    obtain ⟨base, baseAt, bases⟩ := indexed.bases_of_extends placed link
    exact ⟨base, baseAt, .single bases⟩
  | tail _ link inductionHypothesis =>
    obtain ⟨middle, middleAt, way⟩ := inductionHypothesis
    obtain ⟨base, baseAt, bases⟩ := indexed.bases_of_extends middleAt link
    exact ⟨base, baseAt, way.tail bases⟩

/-- The definitions have the declared names. -/
theorem names : types.map (·.name) = collection.names := by
  have same : List.Forall₂ Eq collection.names (types.map (·.name)) := by
    rw [TypeCollection.names, List.forall₂_map_left_iff, List.forall₂_map_right_iff]
    exact indexed.mirrors.imp fun _ _ mirrors => mirrors.name.symm
  rw [List.forall₂_eq_eq_eq] at same
  exact same.symm

/-- The walk up from a definition gives up exactly when its name is endless. -/
theorem endless_iff_walk {definition : TypeDef} (listed : definition ∈ types) :
    collection.Endless definition.name ↔
      chainEndsWithin types types.length definition.base = false := by
  obtain ⟨index, found⟩ := List.getElem?_of_mem listed
  obtain ⟨decl, declared, mirrors⟩ := indexed.exists_decl found
  have placed : collection.typeId? definition.name = some ⟨index⟩ :=
    (typeId?_eq_some_iff indexed.distinct).mpr ⟨decl, declared, mirrors.name.symm⟩
  rw [endless_iff, indexed.acc_iff_ends placed, ends_iff, chainEndsWithin, baseIn, found,
    Option.bind_some, Bool.not_eq_true]

/-- The walks find the first endless name. -/
theorem firstEndless?_iff :
    (firstEndless? types).map (·.name) = some name ↔
      IsFirst collection.Endless collection.names name := by
  classical
  have search : firstEndless? types =
      types.find? ((fun name => decide (collection.Endless name)) ∘ (·.name)) := by
    apply List.find?_congr
    intro definition listed
    rw [Function.comp_apply, Bool.eq_iff_iff, decide_eq_true_eq, indexed.endless_iff_walk listed,
      Bool.not_eq_true']
  rw [search, ← List.find?_map, indexed.names, find?_eq_some_iff_isFirst]
  simp only [decide_eq_true_eq]

/-- No name is linked to itself exactly when none is endless.

Proof: a loop goes on for ever, and an endless chain meets one of the finitely many types twice. -/
theorem unlooped_iff :
    (∀ name, ¬ TransGen collection.Bases name name) ↔
      ∀ name ∈ collection.names, ¬ collection.Endless name := by
  constructor
  · intro unlooped name declared endless
    obtain ⟨id, placed⟩ := exists_typeId?_iff.mpr declared
    rw [endless_iff, indexed.acc_iff_ends placed, ends_iff, Bool.not_eq_true,
      endless_iff_meets_loop] at endless
    obtain ⟨looped, -, loop⟩ := endless
    obtain ⟨above, link, -⟩ := TransGen.head'_iff.mp loop
    have inside := link.declared
    obtain ⟨decl, declared, -⟩ := indexed.exists_decl (List.getElem?_eq_getElem inside)
    have loopedAt : collection.typeId? decl.name = some looped :=
      (typeId?_eq_some_iff indexed.distinct).mpr ⟨decl, declared, rfl⟩
    obtain ⟨base, baseAt, way⟩ := indexed.transGen_of_extends loop loopedAt
    obtain ⟨other, otherDeclared, rfl⟩ := (typeId?_eq_some_iff indexed.distinct).mp baseAt
    rw [declared, Option.some.injEq] at otherDeclared
    exact unlooped _ (otherDeclared ▸ way)
  · intro ends name loop
    obtain ⟨base, ⟨decl, listed, rfl, -⟩, -⟩ := TransGen.head'_iff.mp loop
    have acc := ends decl.name (List.mem_map_of_mem listed)
    rw [endless_iff, Classical.not_not] at acc
    exact not_transGen_of_acc acc loop

/-- The walks find nothing exactly when no name is linked to itself. -/
theorem firstEndless?_eq_none_iff :
    firstEndless? types = none ↔ ∀ name, ¬ TransGen collection.Bases name name := by
  rw [indexed.unlooped_iff, ← Option.map_eq_none_iff, Option.eq_none_iff_forall_ne_some]
  constructor
  · intro ends name declared endless
    obtain ⟨first, isFirst⟩ := exists_isFirst collection.Endless declared endless
    exact ends first (indexed.firstEndless?_iff.mpr isFirst)
  · intro ends name found
    have first := indexed.firstEndless?_iff.mp found
    exact ends name first.mem first.holds

end Indexed

/-- The names known to the code are looked up in order. -/
theorem findTags_eq_mapM :
    collection.findTags.map SchemaTags.ids = Names.required.mapM collection.requireType := by
  simp only [findTags, Names.required, List.mapM_cons, List.mapM_nil]
  cases collection.requireType Names.gameType with
  | error => rfl
  | ok =>
    cases collection.requireType Names.placementsFolderType with
    | error => rfl
    | ok =>
      cases collection.requireType Names.placementsCellReferenceType with
      | error => rfl
      | ok =>
        cases collection.requireType Names.placementsDocumentType with
        | error => rfl
        | ok =>
          cases collection.requireType Names.terrainBaseTextureType with
          | error => rfl
          | ok => cases collection.requireType Names.terrainBaseTextureStrataType <;> rfl

/-- A type that is required is the one of the name. -/
theorem requireType_eq_ok_iff {id : TypeId} :
    collection.requireType name = .ok id ↔ collection.typeId? name = some id := by
  unfold requireType
  cases collection.typeId? name <;> simp

/-- Nothing is wrong with a required name but that no type has it. -/
theorem requireType_eq_error_iff :
    collection.requireType name = .error error ↔
      name ∉ collection.names ∧ error = .missingType name := by
  rw [← typeId?_eq_none_iff]
  unfold requireType
  cases collection.typeId? name <;> simp [eq_comm]

/-- The tags are the types of the required names. -/
theorem tags_of_findTags {tags : SchemaTags} (found : collection.findTags = .ok tags) :
    List.Forall₂ (fun name id => collection.typeId? name = some id) Names.required tags.ids := by
  have listed : Names.required.mapM collection.requireType = .ok tags.ids := by
    rw [← findTags_eq_mapM, found]
    rfl
  simpa only [mapM_eq_ok_iff, requireType_eq_ok_iff] using listed

/-- Looking for them fails with the first that is not declared. -/
theorem findTags_eq_error_iff :
    collection.findTags = .error error ↔
      ∃ name, IsFirst (fun name => name ∉ collection.names) Names.required name ∧
        error = .missingType name := by
  have listed : collection.findTags = .error error ↔
      Names.required.mapM collection.requireType = .error error := by
    rw [← findTags_eq_mapM]
    cases collection.findTags <;> simp [Except.map]
  simp only [listed, mapM_eq_error_iff, requireType_eq_error_iff, exists_and_left, exists_eq,
    and_true]
  exact exists_congr fun name => and_congr_right fun first => by simp [first.holds]

end TypeCollection

/-- A name is the first that is met again where the names before it are new and distinct, and it
is among them or was seen before them.

Proof: on the way down the list each name passed joins those seen. -/
theorem firstRepeated?_eq_some_iff {seen names : List String} {name : String} :
    firstRepeated? seen names = some name ↔
      ∃ earlier later, names = earlier ++ name :: later ∧ earlier.Nodup ∧
        (∀ other ∈ earlier, other ∉ seen) ∧ (name ∈ seen ∨ name ∈ earlier) := by
  induction names generalizing seen with
  | nil => simp [firstRepeated?]
  | cons head rest inductionHypothesis =>
    rw [firstRepeated?]
    split
    · next old =>
      have known : head ∈ seen := List.contains_iff_mem.mp old
      rw [Option.some.injEq]
      constructor
      · rintro rfl
        exact ⟨[], rest, rfl, List.nodup_nil, by simp, .inl known⟩
      · rintro ⟨earlier, later, listed, -, new, -⟩
        cases earlier with
        | nil => exact (List.cons.inj listed).1
        | cons first passed =>
          obtain ⟨rfl, -⟩ := List.cons.inj listed
          exact absurd known (new head List.mem_cons_self)
    · next unseen =>
      have new : head ∉ seen := fun known => unseen (List.contains_iff_mem.mpr known)
      rw [inductionHypothesis]
      constructor
      · rintro ⟨earlier, later, rfl, distinct, apart, again⟩
        have passed : head ∉ earlier := fun listed => apart head listed List.mem_cons_self
        refine ⟨head :: earlier, later, rfl, List.nodup_cons.mpr ⟨passed, distinct⟩,
          List.forall_mem_cons.mpr ⟨new, fun other listed known => ?_⟩, ?_⟩
        · exact apart other listed (List.mem_cons_of_mem _ known)
        · rw [List.mem_cons] at again ⊢
          exact again.elim (fun known => known.elim (.inr ∘ .inl) .inl) (.inr ∘ .inr)
      · rintro ⟨earlier, later, listed, distinct, apart, again⟩
        cases earlier with
        | nil =>
          obtain ⟨rfl, -⟩ := List.cons.inj listed
          exact absurd (again.resolve_right (by simp)) new
        | cons first passed =>
          obtain ⟨rfl, rfl⟩ := List.cons.inj listed
          obtain ⟨notAmong, distinct⟩ := List.nodup_cons.mp distinct
          refine ⟨passed, later, rfl, distinct, fun other among known => ?_, ?_⟩
          · rcases List.mem_cons.mp known with rfl | known
            · exact notAmong among
            · exact apart other (List.mem_cons_of_mem _ among) known
          · rw [List.mem_cons] at again ⊢
            exact again.elim (.inl ∘ .inr) fun among => among.elim (.inl ∘ .inl) .inr

/-- No name is repeated where all are distinct. -/
theorem firstRepeated?_eq_none_iff {names : List String} :
    firstRepeated? [] names = none ↔ names.Nodup := by
  constructor
  · exact fun unrepeated => (nodup_of_firstRepeated? unrepeated).1
  · intro distinct
    rw [Option.eq_none_iff_forall_ne_some]
    intro name repeated
    obtain ⟨earlier, later, rfl, -, -, seen | again⟩ := firstRepeated?_eq_some_iff.mp repeated
    · cases seen
    · exact (List.nodup_append.mp distinct).2.2 name again name List.mem_cons_self rfl

namespace TypeCollection

variable {collection : TypeCollection} {types : List TypeDef} {error : SchemaError}

/-- Definitions that mirror the declarations are made exactly where all of these resolve. -/
theorem exists_resolveAll_iff :
    (∃ types, TypeDecl.resolveAll collection collection.types = .ok types) ↔
      ∀ decl ∈ collection.types, collection.Resolves decl := by
  simp only [TypeDecl.resolveAll_eq_mapM, resolves_iff, ← TypeDecl.resolve_eq_error_iff]
  constructor
  · rintro ⟨types, done⟩ decl listed error failed
    obtain ⟨first, isFirst⟩ := exists_isFirst (fun decl =>
      ∃ error, TypeDecl.resolve collection decl = .error error) listed ⟨error, failed⟩
    obtain ⟨fault, fails⟩ := isFirst.holds
    have refused := mapM_eq_error_iff.mpr ⟨first, isFirst, fails⟩
    rw [done] at refused
    cases refused
  · intro resolves
    cases outcome : collection.types.mapM (TypeDecl.resolve collection) with
    | ok types => exact ⟨types, rfl⟩
    | error error =>
      obtain ⟨decl, first, failed⟩ := mapM_eq_error_iff.mp outcome
      exact absurd failed (resolves decl first.mem error)

/-- Otherwise the first that does not resolve is reported. -/
theorem resolveAll_eq_error_iff :
    TypeDecl.resolveAll collection collection.types = .error error ↔
      ∃ decl, IsFirst (fun decl => ¬ collection.Resolves decl) collection.types decl ∧
        collection.Unresolved decl error := by
  have same : (fun decl => ¬ collection.Resolves decl) =
      fun decl => ∃ error, TypeDecl.resolve collection decl = .error error := by
    funext decl
    simp only [resolves_iff, TypeDecl.resolve_eq_error_iff, not_forall, Classical.not_not]
  rw [TypeDecl.resolveAll_eq_mapM, mapM_eq_error_iff, same]
  simp only [TypeDecl.resolve_eq_error_iff]

/-- Distinct declarations are indexed by the definitions made of them. -/
theorem indexed_of_resolveAll (distinct : collection.names.Nodup)
    (resolved : TypeDecl.resolveAll collection collection.types = .ok types) :
    collection.Indexed types := by
  rw [TypeDecl.resolveAll_eq_mapM, mapM_eq_ok_iff] at resolved
  exact ⟨distinct, resolved.imp fun _ _ done => TypeDecl.resolve_eq_ok_iff.mp done⟩

/-- So there are definitions that index them, if all of them resolve. -/
theorem exists_indexed (distinct : collection.names.Nodup)
    (resolves : ∀ decl ∈ collection.types, collection.Resolves decl) :
    ∃ types, TypeDecl.resolveAll collection collection.types = .ok types ∧
      collection.Indexed types := by
  obtain ⟨types, resolved⟩ := exists_resolveAll_iff.mpr resolves
  exact ⟨types, resolved, indexed_of_resolveAll distinct resolved⟩

end TypeCollection

namespace Schema

open TypeCollection

variable {collection : TypeCollection} {error : SchemaError}

/-- A schema is refused by the first of the four stages that finds a fault. -/
theorem ofCollection_eq_error_iff_stage :
    Schema.ofCollection collection = .error error ↔
      (∃ name, firstRepeated? [] collection.names = some name ∧ error = .duplicateType name) ∨
      firstRepeated? [] collection.names = none ∧
        (TypeDecl.resolveAll collection collection.types = .error error ∨
        ∃ types, TypeDecl.resolveAll collection collection.types = .ok types ∧
          ((∃ name, (firstEndless? types).map (·.name) = some name ∧
              error = .cyclicBaseType name) ∨
            firstEndless? types = none ∧ collection.findTags = .error error)) := by
  unfold Schema.ofCollection TypeCollection.names
  cases firstRepeated? [] (collection.types.map (·.name)) with
  | some name => simp [eq_comm]
  | none =>
    cases TypeDecl.resolveAll collection collection.types with
    | error fault => simp
    | ok types =>
      cases endless : firstEndless? types with
      | some definition => simp [endless, eq_comm]
      | none => cases found : collection.findTags <;> simp [endless]

/-- A schema is refused for the first fault of its declarations. -/
theorem ofCollection_eq_error_iff :
    Schema.ofCollection collection = .error error ↔ collection.Fault error := by
  simp only [ofCollection_eq_error_iff_stage, firstRepeated?_eq_none_iff, resolveAll_eq_error_iff,
    findTags_eq_error_iff, firstRepeated?_eq_some_iff]
  constructor
  · rintro (⟨name, ⟨earlier, later, listed, new, -, seen | again⟩, rfl⟩ | ⟨distinct,
      ⟨decl, first, fault⟩ | ⟨types, resolved, ⟨name, endless, rfl⟩ | ⟨ends, name, first, rfl⟩⟩⟩)
    · cases seen
    · exact .repeated listed new again
    · exact .unresolved distinct first fault
    · have indexed := indexed_of_resolveAll distinct resolved
      exact .endless distinct (exists_resolveAll_iff.mp ⟨types, resolved⟩)
        (indexed.firstEndless?_iff.mp endless)
    · have indexed := indexed_of_resolveAll distinct resolved
      exact .missing distinct (exists_resolveAll_iff.mp ⟨types, resolved⟩)
        (indexed.firstEndless?_eq_none_iff.mp ends) first
  · rintro (⟨listed, new, again⟩ | ⟨distinct, first, fault⟩ | ⟨distinct, resolves, first⟩ |
      ⟨distinct, resolves, unlooped, first⟩)
    · exact .inl ⟨_, ⟨_, _, listed, new, by simp, .inr again⟩, rfl⟩
    · exact .inr ⟨distinct, .inl ⟨_, first, fault⟩⟩
    · obtain ⟨types, resolved, indexed⟩ := exists_indexed distinct resolves
      exact .inr ⟨distinct, .inr ⟨types, resolved,
        .inl ⟨_, indexed.firstEndless?_iff.mpr first, rfl⟩⟩⟩
    · obtain ⟨types, resolved, indexed⟩ := exists_indexed distinct resolves
      exact .inr ⟨distinct, .inr ⟨types, resolved,
        .inr ⟨indexed.firstEndless?_eq_none_iff.mpr unlooped, _, first, rfl⟩⟩⟩

/-- Accepted declarations are those that have a schema. -/
theorem exists_ofCollection_iff :
    (∃ schema, Schema.ofCollection collection = .ok schema) ↔ collection.Accepted := by
  constructor
  · rintro ⟨schema, built⟩
    obtain ⟨unrepeated, resolved, ends, found, -⟩ := ofCollection_eq_ok_iff.mp built
    have distinct := firstRepeated?_eq_none_iff.mp unrepeated
    have indexed := indexed_of_resolveAll distinct resolved
    refine ⟨distinct, exists_resolveAll_iff.mp ⟨_, resolved⟩,
      indexed.firstEndless?_eq_none_iff.mp ends, fun name required => ?_⟩
    obtain ⟨length, placed⟩ := List.forall₂_iff_get.mp (tags_of_findTags found)
    obtain ⟨place, inside, rfl⟩ := List.getElem_of_mem required
    exact exists_typeId?_iff.mp ⟨_, placed place inside (length ▸ inside)⟩
  · intro accepted
    cases built : Schema.ofCollection collection with
    | ok schema => exact ⟨schema, rfl⟩
    | error error =>
      -- Every kind of fault denies one of the conditions.
      cases ofCollection_eq_error_iff.mp built with
      | repeated listed _ again =>
        have distinct := accepted.distinct
        rw [listed] at distinct
        exact absurd rfl ((List.nodup_append.mp distinct).2.2 _ again _ List.mem_cons_self)
      | unresolved _ first _ => exact absurd (accepted.resolves _ first.mem) first.holds
      | endless distinct resolves first =>
        obtain ⟨types, -, indexed⟩ := exists_indexed distinct resolves
        exact absurd first.holds (indexed.unlooped_iff.mp accepted.unlooped _ first.mem)
      | missing _ _ _ first => exact absurd (accepted.tagged _ first.mem) first.holds

/-- A schema indexes declarations: each is found at its place, and is found again from there. -/
structure Indexes (schema : Schema) (collection : TypeCollection) : Prop where
  /-- The namespace is the declared one. -/
  targetNamespace : schema.targetNamespace = collection.targetNamespace
  /-- There are as many types as declarations. -/
  size : schema.size = collection.types.length
  /-- Finding a type by name and naming a type undo each other. -/
  inverse : ∀ name id, schema.typeId? name = some id ↔
    (schema.typeDef? id).isSome = true ∧ schema.typeName id = name
  /-- A declared name is found at the place of its declaration, where a definition mirrors it. -/
  placed : ∀ index decl, collection.types[index]? = some decl →
    schema.typeId? decl.name = some ⟨index⟩ ∧
      ∃ definition, schema.typeDef? ⟨index⟩ = some definition ∧
        definition.Mirrors schema.typeId? decl
  /-- The types known by name are those that have these names. -/
  tags : List.Forall₂ (fun name id => schema.typeId? name = some id) Names.required schema.tags.ids

/-- Where names are distinct, a name is found at the type that has it. -/
theorem typeId?_eq_some_iff {schema : Schema} (distinct : schema.DistinctNames) {name : String}
    {id : TypeId} : schema.typeId? name = some id ↔
      (schema.typeDef? id).isSome = true ∧ schema.typeName id = name := by
  constructor
  · intro found
    refine ⟨declared_of_typeId? found, ?_⟩
    obtain ⟨index, place, rfl⟩ := Option.map_eq_some_iff.mp found
    obtain ⟨definition, here, rfl⟩ := (findIdx?_name_eq_some_iff distinct).mp place
    rw [typeName, typeDef?, here]
  · rintro ⟨declared, rfl⟩
    exact typeId?_typeName distinct declared

/-- The definitions of a schema that is built are those of the declarations. -/
theorem indexed_of_ofCollection {schema : Schema}
    (built : Schema.ofCollection collection = .ok schema) : collection.Indexed schema.types := by
  obtain ⟨unrepeated, resolved, -⟩ := ofCollection_eq_ok_iff.mp built
  exact indexed_of_resolveAll (firstRepeated?_eq_none_iff.mp unrepeated) resolved

/-- It finds names where the declarations have them. -/
theorem typeId?_eq_of_ofCollection {schema : Schema}
    (built : Schema.ofCollection collection = .ok schema) : schema.typeId? = collection.typeId? := by
  funext name
  have sameNames := congrArg (List.findIdx? (· == name)) (indexed_of_ofCollection built).names
  rw [TypeCollection.names, List.findIdx?_map, List.findIdx?_map] at sameNames
  exact congrArg (Option.map TypeId.mk) sameNames

/-- What is built from declarations indexes them. -/
theorem indexes_of_ofCollection {schema : Schema}
    (built : Schema.ofCollection collection = .ok schema) : schema.Indexes collection := by
  obtain ⟨-, -, -, found, targetNamespace⟩ := ofCollection_eq_ok_iff.mp built
  have indexed := indexed_of_ofCollection built
  have sameFind := typeId?_eq_of_ofCollection built
  refine ⟨targetNamespace, indexed.mirrors.length_eq.symm,
    fun name id => typeId?_eq_some_iff (distinctNames_of_ofCollection built),
    fun index decl declared => ⟨?_, ?_⟩, ?_⟩
  · rw [sameFind, TypeCollection.typeId?_eq_some_iff indexed.distinct]
    exact ⟨decl, declared, rfl⟩
  · rw [sameFind]
    exact indexed.exists_definition declared
  · rw [sameFind]
    exact tags_of_findTags found

/-- Declarations either are accepted and become a schema that indexes them, or are refused for
their first fault. -/
theorem ofCollection_accepts_or_faults (collection : TypeCollection) :
    ((∃ schema, Schema.ofCollection collection = .ok schema) ↔ collection.Accepted) ∧
    (∀ error, Schema.ofCollection collection = .error error ↔ collection.Fault error) ∧
    ∀ schema, Schema.ofCollection collection = .ok schema → schema.Indexes collection :=
  ⟨exists_ofCollection_iff, fun _ => ofCollection_eq_error_iff,
    fun _ built => indexes_of_ofCollection built⟩

/-- Two types that derive from each other, declared after one that derives from them. -/
def lasso : TypeCollection :=
  ⟨"urn:lasso", [(TypeDecl.named "leaf").withBase "head", (TypeDecl.named "head").withBase "tail",
    (TypeDecl.named "tail").withBase "head"]⟩

/-- The type blamed for a loop need not be on it, and the built-in declarations have no fault. -/
theorem lasso_faults_and_baseline_accepted :
    lasso.Fault (.cyclicBaseType "leaf") ∧ TypeCollection.baseline.Accepted ∧
      Schema.builtin.Indexes TypeCollection.baseline := by
  obtain ⟨-, refused, -⟩ := ofCollection_accepts_or_faults lasso
  obtain ⟨accepted, -, indexes⟩ := ofCollection_accepts_or_faults TypeCollection.baseline
  exact ⟨(refused _).mp (by decide +kernel), accepted.mp ⟨_, ofCollection_baseline⟩,
    indexes _ ofCollection_baseline⟩

end Schema

end LevelGraph
