import LevelGraph.Proofs.Schemas
import Mathlib.Data.List.Forall2

/-!
# Resolving declarations

Declarations refer to each other by name, definitions by index. A declaration resolves when its
base and the types of all its slots are declared, and then its definition mirrors it: the same
name, attributes and slots in the same order, with each name replaced by the index found for it.
Otherwise it has a first fault, its base being looked at before its slots and these in order.

Both slots and types are resolved in order until one fails. So the first that cannot be resolved
decides, and `IsFirst` is what being first means here and in every stage of building a schema.
-/

namespace LevelGraph

section Lists

variable {α β ε : Type} {list : List α}

/-- The first member of a list that has a property. -/
def IsFirst (property : α → Prop) (list : List α) (item : α) : Prop :=
  ∃ earlier later, list = earlier ++ item :: later ∧ property item ∧
    ∀ other ∈ earlier, ¬ property other

/-- The first with a property is in the list. -/
theorem IsFirst.mem {property : α → Prop} {item : α} (first : IsFirst property list item) :
    item ∈ list := by
  obtain ⟨earlier, later, rfl, -, -⟩ := first
  simp

/-- The first with a property has it. -/
theorem IsFirst.holds {property : α → Prop} {item : α} (first : IsFirst property list item) :
    property item := by
  obtain ⟨-, -, -, holds, -⟩ := first
  exact holds

/-- The first member is the head, or else the first of what follows. -/
theorem isFirst_cons {property : α → Prop} {head item : α} :
    IsFirst property (head :: list) item ↔
      (property head ∧ item = head) ∨ (¬ property head ∧ IsFirst property list item) := by
  constructor
  · rintro ⟨earlier, later, split, holds, before⟩
    cases earlier with
    | nil =>
      cases split
      exact .inl ⟨holds, rfl⟩
    | cons first rest =>
      cases split
      obtain ⟨apart, others⟩ := List.forall_mem_cons.mp before
      exact .inr ⟨apart, rest, later, rfl, holds, others⟩
  · rintro (⟨holds, rfl⟩ | ⟨apart, earlier, later, rfl, holds, before⟩)
    · exact ⟨[], list, rfl, holds, by simp⟩
    · exact ⟨head :: earlier, later, rfl, holds, List.forall_mem_cons.mpr ⟨apart, before⟩⟩

/-- If any member has the property, one of them is the first. -/
theorem exists_isFirst (property : α → Prop) {item : α} (listed : item ∈ list)
    (holds : property item) : ∃ first, IsFirst property list first := by
  induction list with
  | nil => cases listed
  | cons head rest inductionHypothesis =>
    by_cases here : property head
    · exact ⟨head, isFirst_cons.mpr (.inl ⟨here, rfl⟩)⟩
    · rcases List.mem_cons.mp listed with rfl | later
      · exact absurd holds here
      · obtain ⟨first, isFirst⟩ := inductionHypothesis later
        exact ⟨first, isFirst_cons.mpr (.inr ⟨here, isFirst⟩)⟩

/-- A search yields the first member that passes its test. -/
theorem find?_eq_some_iff_isFirst {test : α → Bool} {item : α} :
    list.find? test = some item ↔ IsFirst (fun item => test item = true) list item := by
  induction list with
  | nil => simp [IsFirst]
  | cons head rest inductionHypothesis =>
    rw [isFirst_cons, List.find?_cons, ← inductionHypothesis]
    cases test head <;> simp [eq_comm]

variable {step : α → Except ε β}

/-- Working through a list succeeds with what each member yields. -/
theorem mapM_eq_ok_iff {results : List β} :
    list.mapM step = .ok results ↔
      List.Forall₂ (fun item result => step item = .ok result) list results := by
  induction list generalizing results with
  | nil => cases results <;> simp [pure, Except.pure]
  | cons item rest inductionHypothesis =>
    rw [List.mapM_cons]
    cases here : step item with
    | error error => cases results <;> simp [bind, Except.bind, here]
    | ok result =>
      cases later : rest.mapM step with
      | error error =>
        cases results <;> simp [bind, Except.bind, ← inductionHypothesis, here, later]
      | ok found =>
        cases results <;>
          simp [bind, Except.bind, pure, Except.pure, ← inductionHypothesis, here, later]

/-- Working through a list fails with the error of the first member that fails. -/
theorem mapM_eq_error_iff {error : ε} :
    list.mapM step = .error error ↔
      ∃ item, IsFirst (fun item => ∃ error, step item = .error error) list item ∧
        step item = .error error := by
  induction list with
  | nil => simp [pure, Except.pure, IsFirst]
  | cons head rest inductionHypothesis =>
    simp only [List.mapM_cons, isFirst_cons]
    cases here : step head with
    | error fault => simp [bind, Except.bind, here]
    | ok result =>
      have later : (do
            let results ← rest.mapM step
            pure (result :: results) : Except ε (List β)) = .error error ↔
          rest.mapM step = .error error := by
        cases rest.mapM step <;> simp [bind, Except.bind, pure, Except.pure]
      refine later.trans (inductionHypothesis.trans ?_)
      simp

end Lists

namespace TypeCollection

variable {collection : TypeCollection} {name : String}

/-- The names of the declared types, in order. -/
def names (collection : TypeCollection) : List String := collection.types.map (·.name)

/-- A name is found when it is declared. -/
theorem typeId?_eq_none_iff : collection.typeId? name = none ↔ name ∉ collection.names := by
  simp [typeId?, names, List.findIdx?_eq_none_iff]

/-- There is a type of each name in a collection, and of no other. -/
theorem exists_typeId?_iff : (∃ id, collection.typeId? name = some id) ↔ name ∈ collection.names := by
  rw [← Option.isSome_iff_exists, ← Option.ne_none_iff_isSome, ne_eq, typeId?_eq_none_iff,
    Classical.not_not]

/-- Where names are distinct, a name is found at the place of its declaration. -/
theorem typeId?_eq_some_iff (distinct : collection.names.Nodup) {id : TypeId} :
    collection.typeId? name = some id ↔
      ∃ decl, collection.types[id.index]? = some decl ∧ decl.name = name := by
  rw [← findIdx?_name_eq_some_iff distinct, typeId?, Option.map_eq_some_iff]
  constructor
  · rintro ⟨index, place, rfl⟩
    exact place
  · exact fun place => ⟨id.index, place, rfl⟩

/-- A declaration resolves: its base and the types of its slots are declared. -/
structure Resolves (collection : TypeCollection) (decl : TypeDecl) : Prop where
  /-- The base is declared, if there is one. -/
  base : ∀ base, decl.base = some base → base ∈ collection.names
  /-- The types of all slots are declared. -/
  children : ∀ child ∈ decl.children, child.typeName ∈ collection.names

/-- The first fault of a declaration that does not resolve. -/
inductive Unresolved (collection : TypeCollection) (decl : TypeDecl) : SchemaError → Prop where
  /-- Its base is not declared. -/
  | base {base : String} (declares : decl.base = some base) (unknown : base ∉ collection.names) :
      Unresolved collection decl (.unknownBaseType decl.name base)
  /-- Its base is, but the type of a slot is not. -/
  | child {child : ChildDecl} (known : ∀ base, decl.base = some base → base ∈ collection.names)
      (first : IsFirst (fun child => child.typeName ∉ collection.names) decl.children child) :
      Unresolved collection decl (.unknownChildType decl.name child.name child.typeName)

end TypeCollection

/-- A slot is what was declared, with the type found for its name. -/
structure ChildInfo.Mirrors (find : String → Option TypeId) (decl : ChildDecl) (child : ChildInfo) :
    Prop where
  /-- The names agree. -/
  name : child.name = decl.name
  /-- The type is the one that is found. -/
  type : find decl.typeName = some child.childType
  /-- Both are lists or neither is. -/
  isList : child.isList = decl.isList

/-- A definition is what was declared, with the types found for the names. -/
structure TypeDef.Mirrors (find : String → Option TypeId) (decl : TypeDecl) (definition : TypeDef) :
    Prop where
  /-- The names agree. -/
  name : definition.name = decl.name
  /-- The base is the one that is found, or there is none in both. -/
  base : Option.Rel (fun base id => find base = some id) decl.base definition.base
  /-- The attributes agree. -/
  attributes : definition.attributes = decl.attributes
  /-- So do the slots, in order. -/
  children : List.Forall₂ (ChildInfo.Mirrors find) decl.children definition.children

section Resolving

variable {collection : TypeCollection} {error : SchemaError}

/-- Slots are resolved one after the other, up to the first that is wrong. -/
theorem ChildDecl.resolveAll_eq_mapM (owner : String) (decls : List ChildDecl) :
    ChildDecl.resolveAll collection owner decls = decls.mapM (ChildDecl.resolve collection owner) := by
  induction decls with
  | nil => rfl
  | cons decl rest inductionHypothesis =>
    rw [ChildDecl.resolveAll, List.mapM_cons, inductionHypothesis]
    cases decl.resolve collection owner with
    | error => rfl
    | ok =>
      cases rest.mapM (ChildDecl.resolve collection owner) <;> rfl

/-- Types are resolved one after the other, up to the first that is wrong. -/
theorem TypeDecl.resolveAll_eq_mapM (decls : List TypeDecl) :
    TypeDecl.resolveAll collection decls = decls.mapM (TypeDecl.resolve collection) := by
  induction decls with
  | nil => rfl
  | cons decl rest inductionHypothesis =>
    rw [TypeDecl.resolveAll, List.mapM_cons, inductionHypothesis]
    cases decl.resolve collection with
    | error => rfl
    | ok =>
      cases rest.mapM (TypeDecl.resolve collection) <;> rfl

/-- A resolved slot says what its declaration says, with the type in the place of its name. -/
theorem ChildDecl.resolve_eq_ok_iff {owner : String} {decl : ChildDecl} {child : ChildInfo} :
    decl.resolve collection owner = .ok child ↔ child.Mirrors collection.typeId? decl := by
  obtain ⟨name, type, isList⟩ := child
  unfold ChildDecl.resolve
  cases found : collection.typeId? decl.typeName with
  | none =>
    constructor
    · exact (nomatch ·)
    · intro mirrors
      have type := mirrors.type
      rw [found] at type
      cases type
  | some id =>
    simp only [Except.ok.injEq, ChildInfo.mk.injEq]
    constructor
    · rintro ⟨rfl, rfl, rfl⟩
      exact ⟨rfl, found, rfl⟩
    · rintro ⟨sameName, sameType, sameKind⟩
      rw [found, Option.some.injEq] at sameType
      exact ⟨sameName.symm, sameType, sameKind.symm⟩

/-- A slot can only be wrong about the type of its children. -/
theorem ChildDecl.resolve_eq_error_iff {owner : String} {decl : ChildDecl} :
    decl.resolve collection owner = .error error ↔
      decl.typeName ∉ collection.names ∧
        error = .unknownChildType owner decl.name decl.typeName := by
  unfold ChildDecl.resolve
  rw [← TypeCollection.typeId?_eq_none_iff]
  cases collection.typeId? decl.typeName with
  | none => simp [eq_comm]
  | some id => simp

/-- Slots resolve to slots that mirror them, in order. -/
theorem ChildDecl.resolveAll_eq_ok_iff {owner : String} {decls : List ChildDecl}
    {children : List ChildInfo} :
    ChildDecl.resolveAll collection owner decls = .ok children ↔
      List.Forall₂ (ChildInfo.Mirrors collection.typeId?) decls children := by
  simp only [ChildDecl.resolveAll_eq_mapM, mapM_eq_ok_iff, ChildDecl.resolve_eq_ok_iff]

/-- Slots that do not resolve fail with the first whose type is not declared. -/
theorem ChildDecl.resolveAll_eq_error_iff {owner : String} {decls : List ChildDecl} :
    ChildDecl.resolveAll collection owner decls = .error error ↔
      ∃ child, IsFirst (fun child => child.typeName ∉ collection.names) decls child ∧
        error = .unknownChildType owner child.name child.typeName := by
  simp only [ChildDecl.resolveAll_eq_mapM, mapM_eq_error_iff, ChildDecl.resolve_eq_error_iff,
    exists_and_left, exists_eq, and_true]
  refine exists_congr fun child => and_congr_right fun first => ?_
  simp [first.holds]

/-- A base resolves to the type that is found for it, or to none where there is none. -/
theorem TypeDecl.resolveBase_eq_ok_iff {decl : TypeDecl} {base : Option TypeId} :
    decl.resolveBase collection = .ok base ↔
      Option.Rel (fun base id => collection.typeId? base = some id) decl.base base := by
  unfold TypeDecl.resolveBase
  cases decl.base with
  | none => cases base <;> simp
  | some name => cases found : collection.typeId? name <;> cases base <;> simp [found]

/-- A base that does not resolve is not declared. -/
theorem TypeDecl.resolveBase_eq_error_iff {decl : TypeDecl} :
    decl.resolveBase collection = .error error ↔
      ∃ base, decl.base = some base ∧ base ∉ collection.names ∧
        error = .unknownBaseType decl.name base := by
  unfold TypeDecl.resolveBase
  cases decl.base with
  | none => simp
  | some name =>
    simp only [← TypeCollection.typeId?_eq_none_iff]
    cases found : collection.typeId? name <;> simp [found, eq_comm]

/-- A base is resolved if there is none, or a type of its name. -/
theorem TypeDecl.exists_resolveBase_iff {decl : TypeDecl} :
    (∃ base, decl.resolveBase collection = .ok base) ↔
      ∀ base, decl.base = some base → base ∈ collection.names := by
  unfold TypeDecl.resolveBase
  cases decl.base with
  | none => simp
  | some name =>
    simp only [← TypeCollection.exists_typeId?_iff, Option.some.injEq, forall_eq']
    cases collection.typeId? name <;> simp

/-- A type resolves to the definition that mirrors it. -/
theorem TypeDecl.resolve_eq_ok_iff {decl : TypeDecl} {definition : TypeDef} :
    decl.resolve collection = .ok definition ↔ definition.Mirrors collection.typeId? decl := by
  obtain ⟨name, base, attributes, children⟩ := definition
  have mirrors : (⟨name, base, attributes, children⟩ : TypeDef).Mirrors collection.typeId? decl ↔
      decl.resolveBase collection = .ok base ∧
        ChildDecl.resolveAll collection decl.name decl.children = .ok children ∧
        name = decl.name ∧ attributes = decl.attributes := by
    rw [TypeDecl.resolveBase_eq_ok_iff, ChildDecl.resolveAll_eq_ok_iff]
    constructor
    · exact fun mirrors => ⟨mirrors.base, mirrors.children, mirrors.name, mirrors.attributes⟩
    · exact fun ⟨base, children, name, attributes⟩ => ⟨name, base, attributes, children⟩
  rw [mirrors]
  unfold TypeDecl.resolve
  cases decl.resolveBase collection with
  | error => simp
  | ok found =>
    cases ChildDecl.resolveAll collection decl.name decl.children with
    | error => simp
    | ok slots =>
      simp only [Except.ok.injEq, TypeDef.mk.injEq]
      grind

/-- A type that does not resolve has its first fault. -/
theorem TypeDecl.resolve_eq_error_iff {decl : TypeDecl} :
    decl.resolve collection = .error error ↔ collection.Unresolved decl error := by
  have stages : decl.resolve collection = .error error ↔
      decl.resolveBase collection = .error error ∨
        (∃ base, decl.resolveBase collection = .ok base) ∧
          ChildDecl.resolveAll collection decl.name decl.children = .error error := by
    unfold TypeDecl.resolve
    cases decl.resolveBase collection with
    | error => simp
    | ok => cases ChildDecl.resolveAll collection decl.name decl.children <;> simp
  rw [stages, TypeDecl.resolveBase_eq_error_iff, TypeDecl.exists_resolveBase_iff,
    ChildDecl.resolveAll_eq_error_iff]
  constructor
  · rintro (⟨base, declares, unknown, rfl⟩ | ⟨known, child, first, rfl⟩)
    · exact .base declares unknown
    · exact .child known first
  · rintro (⟨declares, unknown⟩ | ⟨known, first⟩)
    · exact .inl ⟨_, declares, unknown, rfl⟩
    · exact .inr ⟨known, _, first, rfl⟩

/-- A declaration resolves when it has no fault. -/
theorem TypeCollection.resolves_iff {decl : TypeDecl} :
    collection.Resolves decl ↔ ∀ error, ¬ collection.Unresolved decl error := by
  constructor
  · rintro ⟨known, typed⟩ error (⟨declares, unknown⟩ | ⟨-, first⟩)
    · exact unknown (known _ declares)
    · exact first.holds (typed _ first.mem)
  · intro faultless
    have known : ∀ base, decl.base = some base → base ∈ collection.names := by
      intro base declares
      by_contra unknown
      exact faultless _ (.base declares unknown)
    apply Resolves.mk known
    intro child listed
    by_contra untyped
    obtain ⟨first, isFirst⟩ :=
      exists_isFirst (fun child => child.typeName ∉ collection.names) listed untyped
    exact faultless _ (.child known isFirst)

end Resolving

end LevelGraph
