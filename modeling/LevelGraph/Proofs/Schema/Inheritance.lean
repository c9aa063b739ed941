import LevelGraph.Proofs.Schema.Acceptance
import LevelGraph.Proofs.Schema.Hierarchy

/-!
# What a type inherits

A type has what the nearest type in its ancestry has, itself before its base. `Nearest` says so by base
links alone: they lead there, and nothing on the way has it. Because every chain ends, a search of the
ancestry finds exactly the nearest type, and there is one as soon as any type of the ancestry will do.
So a type has whatever a type has that it derives from, and it is the same thing unless something below
that type stands in its place.

Child slots are inherited in this way. Of a name that one type declares several times, the first counts.
-/

namespace LevelGraph

namespace Schema

open Relation

variable {schema : Schema} {type base derived found : TypeId}

/-- The nearest type in a type's ancestry that has a property. -/
structure Nearest (schema : Schema) (has : TypeId → Prop) (type found : TypeId) : Prop where
  /-- Base links lead to it. -/
  reaches : ReflTransGen (Extends schema.types) type found
  /-- It has the property. -/
  holds : has found
  /-- No type on the way to it does. -/
  first : ∀ between, ReflTransGen (Extends schema.types) type between →
    TransGen (Extends schema.types) between found → ¬ has between

section Search

variable {has : TypeId → Prop} {α : Type} {look : TypeId → Option α}

/-- What is reached from a type is the type itself or is reached from its base. -/
theorem reaches_cases {met : TypeId} (reaches : ReflTransGen (Extends schema.types) type met) :
    met = type ∨ ∃ base, Extends schema.types type base ∧
      ReflTransGen (Extends schema.types) base met := by
  rcases reaches.cases_head with same | ⟨base, link, further⟩
  · exact .inl same.symm
  · exact .inr ⟨base, link, further⟩

/-- A type that lacks the property passes the search on to its base. -/
theorem Nearest.of_base (lacks : ¬ has type) (link : Extends schema.types type base)
    (nearest : schema.Nearest has base found) : schema.Nearest has type found := by
  refine ⟨.head link nearest.reaches, nearest.holds, fun between reaches below => ?_⟩
  rcases reaches_cases reaches with rfl | ⟨other, otherLink, further⟩
  · exact lacks
  · exact nearest.first between (link.unique otherLink ▸ further) below

variable (grounded : schema.Grounded)

include grounded

/-- A type that has the property is the nearest one, for no links lead back to it. -/
theorem Nearest.self (holds : has type) : schema.Nearest has type type := by
  refine ⟨.refl, holds, fun between reaches below => ?_⟩
  exact absurd (below.trans_left reaches) (not_transGen_of_acc (grounded between))

/-- The nearest type is the type itself, or else the nearest one to its base. -/
theorem nearest_iff :
    schema.Nearest has type found ↔
      (has type ∧ found = type) ∨
        (¬ has type ∧ ∃ base, Extends schema.types type base ∧ schema.Nearest has base found) := by
  constructor
  · intro nearest
    rcases reaches_cases nearest.reaches with rfl | ⟨base, link, further⟩
    · exact .inl ⟨nearest.holds, rfl⟩
    · refine .inr ⟨nearest.first type .refl (.head' link further), base, link, further,
        nearest.holds, fun between reaches below => ?_⟩
      exact nearest.first between (.head link reaches) below
  · rintro (⟨holds, rfl⟩ | ⟨lacks, base, link, nearest⟩)
    · exact .self grounded holds
    · exact nearest.of_base lacks link

/-- A search of the ancestry stops at the nearest type that has what is looked for.

Proof: induction on the chain. A type that has it ends the search, any other one leaves it to its
base. -/
theorem findSome?_ancestry_eq_some_iff {value : α} :
    (schema.ancestry type).findSome? look = some value ↔
      ∃ nearest, schema.Nearest (fun type => (look type).isSome = true) type nearest ∧
        look nearest = some value := by
  induction grounded type with
  | intro type _ inductionHypothesis =>
    have ahead (found : TypeId) :
        schema.Nearest (fun type => (look type).isSome = true) type found ↔ _ := nearest_iff grounded
    rw [ancestry_eq grounded, List.findSome?_cons]
    simp only [ahead]
    cases here : look type with
    | some own =>
      constructor
      · rintro ⟨⟩
        exact ⟨type, .inl ⟨rfl, rfl⟩, here⟩
      · rintro ⟨nearest, ⟨-, rfl⟩ | ⟨lacks, -⟩, looked⟩
        · exact here.symm.trans looked
        · exact absurd rfl lacks
    | none =>
      simp only [Option.isSome_none, Bool.false_eq_true, false_and, false_or, not_false_eq_true,
        true_and]
      cases link : baseIn schema.types type with
      | none => simp [Extends, link]
      | some base =>
        rw [inductionHypothesis base link]
        simp [Extends, link]

/-- It finds nothing exactly when no type of the ancestry has it. -/
theorem findSome?_ancestry_eq_none_iff :
    (schema.ancestry type).findSome? look = none ↔
      ∀ above, ReflTransGen (Extends schema.types) type above → look above = none := by
  simp only [List.findSome?_eq_none_iff, mem_ancestry_iff grounded]

/-- A type finds what a type finds that it derives from, if nothing below that one has it. -/
theorem findSome?_ancestry_of_derives
    (derives : ReflTransGen (Extends schema.types) derived base)
    (lacking : ∀ between, ReflTransGen (Extends schema.types) derived between →
      TransGen (Extends schema.types) between base → look between = none) :
    (schema.ancestry derived).findSome? look = (schema.ancestry base).findSome? look := by
  induction derives using ReflTransGen.head_induction_on with
  | refl => rfl
  | @head type above link further inductionHypothesis =>
    rw [ancestry_eq grounded type, show baseIn schema.types type = some above from link,
      List.findSome?_cons, lacking type .refl (.head' link further)]
    exact inductionHypothesis fun between reaches => lacking between (.head link reaches)

/-- In any case it finds something. -/
theorem exists_findSome?_ancestry_of_derives {value : α}
    (derives : ReflTransGen (Extends schema.types) derived base)
    (found : (schema.ancestry base).findSome? look = some value) :
    ∃ inherited, (schema.ancestry derived).findSome? look = some inherited := by
  rw [← Option.isSome_iff_exists, ← Option.ne_none_iff_isSome, ne_eq,
    findSome?_ancestry_eq_none_iff grounded]
  intro lacking
  obtain ⟨nearest, isNearest, looked⟩ := (findSome?_ancestry_eq_some_iff grounded).mp found
  exact nomatch looked.symm.trans (lacking nearest (derives.trans isNearest.reaches))

end Search

section Slots

variable {owner : TypeId} {slot : String} {info : ChildInfo}

/-- A type declares a slot of a name itself. -/
def DeclaresSlot (schema : Schema) (slot : String) (type : TypeId) : Prop :=
  ∃ definition, schema.typeDef? type = some definition ∧
    ∃ child ∈ definition.children, child.name = slot

/-- A slot is the first of its name that a type declares. -/
def FirstSlot (schema : Schema) (slot : String) (type : TypeId) (info : ChildInfo) : Prop :=
  ∃ definition, schema.typeDef? type = some definition ∧
    IsFirst (fun child => child.name = slot) definition.children info

/-- The slot looked up at one type is the first that it declares. -/
theorem ownChild?_eq_some_iff :
    schema.ownChild? owner slot = some info ↔ schema.FirstSlot slot owner info := by
  simp only [ownChild?, Option.bind_eq_some_iff, find?_eq_some_iff_isFirst, beq_iff_eq,
    FirstSlot]

/-- One is found there when one is declared there. -/
theorem isSome_ownChild?_iff :
    (schema.ownChild? owner slot).isSome = true ↔ schema.DeclaresSlot slot owner := by
  simp only [Option.isSome_iff_exists, ownChild?_eq_some_iff, FirstSlot, DeclaresSlot]
  constructor
  · rintro ⟨info, definition, found, first⟩
    exact ⟨definition, found, info, first.mem, first.holds⟩
  · rintro ⟨definition, found, child, listed, named⟩
    obtain ⟨info, first⟩ :=
      exists_isFirst (fun child : ChildInfo => child.name = slot) listed named
    exact ⟨info, definition, found, first⟩

/-- A type has no slot of its own of a name that it does not declare. -/
theorem ownChild?_eq_none_iff :
    schema.ownChild? owner slot = none ↔ ¬ schema.DeclaresSlot slot owner := by
  rw [← isSome_ownChild?_iff, Bool.not_eq_true, Option.isSome_eq_false_iff, Option.isNone_iff_eq_none]

/-- The slot of a name that a type has is the first that the nearest type declares. -/
theorem childInfo?_eq_some_iff (grounded : schema.Grounded) :
    schema.childInfo? owner slot = some info ↔
      ∃ nearest, schema.Nearest (schema.DeclaresSlot slot) owner nearest ∧
        schema.FirstSlot slot nearest info := by
  rw [childInfo?, findSome?_ancestry_eq_some_iff grounded]
  simp only [isSome_ownChild?_iff, ownChild?_eq_some_iff]

/-- A type has none exactly when no type of its ancestry declares one. -/
theorem childInfo?_eq_none_iff (grounded : schema.Grounded) :
    schema.childInfo? owner slot = none ↔
      ∀ above, ReflTransGen (Extends schema.types) owner above → ¬ schema.DeclaresSlot slot above := by
  rw [childInfo?, findSome?_ancestry_eq_none_iff grounded]
  simp only [ownChild?_eq_none_iff]

/-- A type has the slots of the types that it derives from. -/
theorem exists_childInfo?_of_derives (grounded : schema.Grounded)
    (derives : ReflTransGen (Extends schema.types) derived base)
    (has : schema.childInfo? base slot = some info) :
    ∃ inherited, schema.childInfo? derived slot = some inherited :=
  exists_findSome?_ancestry_of_derives grounded derives has

/-- A slot that no type below the other one declares anew is the same slot. -/
theorem childInfo?_of_derives (grounded : schema.Grounded)
    (derives : ReflTransGen (Extends schema.types) derived base)
    (undeclared : ∀ between, ReflTransGen (Extends schema.types) derived between →
      TransGen (Extends schema.types) between base → ¬ schema.DeclaresSlot slot between) :
    schema.childInfo? derived slot = schema.childInfo? base slot :=
  findSome?_ancestry_of_derives grounded derives fun between reaches below =>
    ownChild?_eq_none_iff.mpr (undeclared between reaches below)

/-- The slots of a schema that is built hold nodes of declared types. -/
theorem declared_childType {collection : TypeCollection}
    (done : Schema.ofCollection collection = .ok schema)
    (declares : schema.FirstSlot slot owner info) :
    (schema.typeDef? info.childType).isSome = true := by
  obtain ⟨definition, found, first⟩ := declares
  have indexes := indexes_of_ofCollection done
  have inside : owner.index < collection.types.length := by
    obtain ⟨inside, -⟩ := List.getElem?_eq_some_iff.mp found
    exact Nat.lt_of_lt_of_eq inside indexes.size
  obtain ⟨-, placed, placedFound, mirrors⟩ :=
    indexes.placed owner.index _ (List.getElem?_eq_getElem inside)
  rw [show schema.typeDef? ⟨owner.index⟩ = some definition from found, Option.some.injEq]
    at placedFound
  subst placedFound
  obtain ⟨length, each⟩ := List.forall₂_iff_get.mp mirrors.children
  obtain ⟨place, insideChildren, rfl⟩ := List.getElem_of_mem first.mem
  exact declared_of_typeId? (each place (length ▸ insideChildren) insideChildren).type

/-- The slots of a schema that is built, for any type, declared or foreign. A type has the slot that
the nearest type in its ancestry declares, the first of that name there, and it has none exactly when no
type in its ancestry declares one. So it has every slot that a type has which it derives from, and it is
the same slot unless the type itself or one between them declares it anew. Slots hold nodes of declared
types. -/
theorem childInfo?_inherits {collection : TypeCollection}
    (done : Schema.ofCollection collection = .ok schema) (slot : String) :
    (∀ owner info, schema.childInfo? owner slot = some info ↔
      ∃ nearest, schema.Nearest (schema.DeclaresSlot slot) owner nearest ∧
        schema.FirstSlot slot nearest info) ∧
    (∀ owner, schema.childInfo? owner slot = none ↔
      ∀ above, ReflTransGen (Extends schema.types) owner above → ¬ schema.DeclaresSlot slot above) ∧
    (∀ base derived info, schema.isAssignableFrom base derived = true →
      schema.childInfo? base slot = some info →
      (∃ inherited, schema.childInfo? derived slot = some inherited) ∧
      ((∀ between, schema.isAssignableFrom between derived = true →
          schema.isAssignableFrom base between = true → between ≠ base →
          ¬ schema.DeclaresSlot slot between) →
        schema.childInfo? derived slot = some info)) ∧
    ∀ owner info, schema.childInfo? owner slot = some info →
      (schema.typeDef? info.childType).isSome = true := by
  have grounded := grounded_of_ofCollection done
  refine ⟨fun owner info => childInfo?_eq_some_iff grounded,
    fun owner => childInfo?_eq_none_iff grounded,
    fun base derived info derives inherits => ⟨?has, ?same⟩, fun owner info found => ?declared⟩
  case has =>
    exact exists_childInfo?_of_derives grounded ((isAssignableFrom_iff grounded).mp derives) inherits
  case same =>
    intro undeclared
    rw [isAssignableFrom_iff grounded] at derives
    rw [← inherits]
    refine childInfo?_of_derives grounded derives fun between reaches below => ?_
    have apart : between ≠ base := by
      rintro rfl
      exact not_transGen_of_acc (grounded between) below
    exact undeclared between ((isAssignableFrom_iff grounded).mpr reaches)
      ((isAssignableFrom_iff grounded).mpr below.to_reflTransGen) apart
  case declared =>
    obtain ⟨nearest, -, declares⟩ := (childInfo?_eq_some_iff grounded).mp found
    exact declared_childType done declares

/-- The built-in declarations with two more kinds of base texture. The first has layers of its own kind
and names their slot twice, the second derives from it. -/
def layered : TypeCollection :=
  { TypeCollection.baseline with
    types := TypeCollection.baseline.types ++
      [((TypeDecl.named "detailTextureType").withBase Names.terrainBaseTextureType
          |>.withChildList Names.strataChild "detailStrataType"
          |>.withChild Names.strataChild Names.terrainType),
        (TypeDecl.named "detailStrataType").withBase Names.terrainBaseTextureStrataType,
        (TypeDecl.named "fineTextureType").withBase "detailTextureType"] }

/-- The second kind takes its layers from the first one and not from the built-in one, by the slot that
is named first, and has no slot for cells. -/
theorem childInfo?_inherits_layered :
    ∃ schema, Schema.ofCollection layered = .ok schema ∧
      (∃ nearest, schema.Nearest (schema.DeclaresSlot Names.strataChild) ⟨10⟩ nearest ∧
        schema.FirstSlot Names.strataChild nearest ⟨Names.strataChild, ⟨9⟩, true⟩) ∧
      (∃ inherited, schema.childInfo? ⟨10⟩ Names.strataChild = some inherited ∧
        inherited ≠ ⟨Names.strataChild, ⟨7⟩, true⟩) ∧
      (schema.typeDef? ⟨9⟩).isSome = true ∧
      ∀ above, ReflTransGen (Extends schema.types) ⟨10⟩ above →
        ¬ schema.DeclaresSlot Names.cellChild above := by
  have answers : (Schema.ofCollection layered).toOption.map (fun schema =>
      (schema.childInfo? ⟨10⟩ Names.strataChild, schema.childInfo? ⟨6⟩ Names.strataChild,
        schema.childInfo? ⟨10⟩ Names.cellChild, schema.isAssignableFrom ⟨6⟩ ⟨10⟩)) =
      some (some ⟨Names.strataChild, ⟨9⟩, true⟩, some ⟨Names.strataChild, ⟨7⟩, true⟩, none, true) := by
    decide +kernel
  obtain ⟨schema, done, answers⟩ := exists_ofCollection_of_map answers
  simp only [Prod.mk.injEq] at answers
  obtain ⟨layers, builtin, noCells, derives⟩ := answers
  obtain ⟨nearest, -, inherits, declared⟩ := childInfo?_inherits done Names.strataChild
  obtain ⟨-, absent, -⟩ := childInfo?_inherits done Names.cellChild
  obtain ⟨⟨inherited, found⟩, -⟩ := inherits _ _ _ derives builtin
  refine ⟨schema, done, (nearest _ _).mp layers, ⟨inherited, found, ?_⟩, declared _ _ layers,
    (absent _).mp noCells⟩
  rw [layers, Option.some.injEq] at found
  rw [← found]
  decide

end Slots

end Schema

end LevelGraph
