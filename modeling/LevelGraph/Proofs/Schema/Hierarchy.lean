import LevelGraph.Proofs.Schema.Chains
import LevelGraph.Proofs.Schemas

/-!
# The hierarchy of types

A schema is only built from declarations whose base chains all end. That was checked by counting
links, and from it follows that base links are well-founded, so every walk along them terminates,
whatever type it starts at and whatever type it looks for. It ends with the answer that the
ancestry gives.

Deriving from a type orders the types, and those that one type derives from are a chain in that
order. So what derives from a reference type is a reference type.
-/

namespace LevelGraph

open Relation

/-- A walk up base links that looks for a type, from a cursor to its answer. -/
inductive Walk (types : List TypeDef) (wanted : TypeId) : Option TypeId → Bool → Prop where
  /-- It has left the last type of the chain behind. -/
  | passed : Walk types wanted none false
  /-- It has come to the type. -/
  | found : Walk types wanted (some wanted) true
  /-- It goes on with the base of another type. -/
  | further {type : TypeId} {answer : Bool} (other : type ≠ wanted)
      (later : Walk types wanted (baseIn types type) answer) :
      Walk types wanted (some type) answer

/-- A walk has one answer. -/
theorem Walk.unique {types : List TypeDef} {wanted : TypeId} {cursor : Option TypeId}
    {answer other : Bool} (first : Walk types wanted cursor answer)
    (second : Walk types wanted cursor other) : answer = other := by
  induction first with
  | passed =>
    cases second
    rfl
  | found =>
    cases second with
    | found => rfl
    | further different => exact absurd rfl different
  | further different _ inductionHypothesis =>
    cases second with
    | found => exact absurd rfl different
    | further _ later => exact inductionHypothesis later

namespace Schema

variable {schema : Schema} {base derived middle type : TypeId}

/-- Every base chain of the schema ends, also that of a foreign index. -/
def Grounded (schema : Schema) : Prop := ∀ type, Ends schema.types type

/-- A schema that is built is grounded: declared types have been checked, and a foreign index has
no base. -/
theorem grounded_of_ofCollection {collection : TypeCollection}
    (done : Schema.ofCollection collection = .ok schema) : schema.Grounded := by
  obtain ⟨-, -, checked, -⟩ := ofCollection_eq_ok_iff.mp done
  rw [firstEndless?, List.find?_eq_none] at checked
  intro type
  rw [ends_iff, chainEndsWithin, baseIn]
  cases found : schema.types[type.index]? with
  | none => rw [Option.bind_none, chainEndsWithin]
  | some definition =>
    have ends := checked definition (List.mem_of_getElem? found)
    simpa using ends

section Order

variable (grounded : schema.Grounded)

include grounded

/-- The ancestry of a type is the type and then the ancestry of its base, which does not miss the
one link that it has less there. -/
theorem ancestry_eq (type : TypeId) :
    schema.ancestry type =
      type :: match baseIn schema.types type with
        | none => []
        | some base => schema.ancestry base := by
  have ends := ends_iff.mp (grounded type)
  rw [chainEndsWithin] at ends
  rw [ancestry, chainIn]
  cases link : baseIn schema.types type with
  | none => rfl
  | some base =>
    rw [link] at ends
    simp only [ancestry, chainIn_succ_of_ends ends]

/-- The ancestry of a type lists what base links lead to. -/
theorem mem_ancestry_iff :
    base ∈ schema.ancestry derived ↔ ReflTransGen (Extends schema.types) derived base := by
  constructor
  · exact reaches_of_mem_chainIn
  · intro reaches
    induction reaches using ReflTransGen.head_induction_on with
    | refl =>
      rw [ancestry_eq grounded]
      exact List.mem_cons_self
    | @head type above link _ inductionHypothesis =>
      rw [ancestry_eq grounded, show baseIn schema.types type = some above from link]
      exact List.mem_cons_of_mem _ inductionHypothesis

/-- A type derives from another exactly when base links lead there. -/
theorem isAssignableFrom_iff :
    schema.isAssignableFrom base derived = true ↔
      ReflTransGen (Extends schema.types) derived base := by
  rw [isAssignableFrom, List.contains_iff_mem, mem_ancestry_iff grounded]

/-- The walk from a type ends with the answer for it, by induction on the chain that it goes up. -/
theorem walk_isAssignableFrom (base derived : TypeId) :
    Walk schema.types base (some derived) (schema.isAssignableFrom base derived) := by
  induction grounded derived with
  | intro derived _ inductionHypothesis =>
    rw [isAssignableFrom, ancestry_eq grounded, List.contains_cons]
    by_cases same : derived = base
    · subst same
      simp only [beq_self_eq_true, Bool.true_or]
      exact .found
    · have apart : (base == derived) = false := beq_eq_false_iff_ne.mpr (Ne.symm same)
      rw [apart, Bool.false_or]
      apply Walk.further same
      cases link : baseIn schema.types derived with
      | none => exact .passed
      | some above => exact inductionHypothesis above link

/-- What is below a type is below all that are above the type. -/
theorem isAssignableFrom_trans (upper : schema.isAssignableFrom base middle = true)
    (lower : schema.isAssignableFrom middle derived = true) :
    schema.isAssignableFrom base derived = true := by
  rw [isAssignableFrom_iff grounded] at *
  exact lower.trans upper

/-- Two types that derive from each other are one, for otherwise their links would be a loop. -/
theorem isAssignableFrom_antisymm (down : schema.isAssignableFrom base derived = true)
    (up : schema.isAssignableFrom derived base = true) : base = derived := by
  rw [isAssignableFrom_iff grounded] at down up
  rcases reflTransGen_iff_eq_or_transGen.mp down with same | linked
  · exact same
  · exact absurd (linked.trans_left up) (not_transGen_of_acc (grounded derived))

/-- Of two types that one derives from, one derives from the other. -/
theorem isAssignableFrom_total (first : schema.isAssignableFrom base type = true)
    (second : schema.isAssignableFrom middle type = true) :
    schema.isAssignableFrom base middle = true ∨ schema.isAssignableFrom middle base = true := by
  simp only [isAssignableFrom_iff grounded] at *
  exact (reaches_total first second).symm

/-- A type that derives from both of two types would make one of them derive from the other. So there
is none exactly when neither does. -/
theorem no_common_iff (base other : TypeId) :
    (∀ type, ¬ (schema.isAssignableFrom base type = true ∧
        schema.isAssignableFrom other type = true)) ↔
      schema.isAssignableFrom base other = false ∧ schema.isAssignableFrom other base = false := by
  have reflexive (type : TypeId) : schema.isAssignableFrom type type = true :=
    (isAssignableFrom_iff grounded).mpr .refl
  constructor
  · intro apart
    constructor
    · exact Bool.eq_false_iff.mpr fun derives => apart other ⟨derives, reflexive other⟩
    · exact Bool.eq_false_iff.mpr fun derives => apart base ⟨reflexive base, derives⟩
  · rintro ⟨notBelow, notAbove⟩ type ⟨first, second⟩
    rcases isAssignableFrom_total grounded first second with derives | derives
    · exact Bool.false_ne_true (notBelow.symm.trans derives)
    · exact Bool.false_ne_true (notAbove.symm.trans derives)

end Order

/-- The hierarchy of a schema that is built, for any types, declared or foreign. The walk from a
type in search of another terminates, and always with the same answer. It is yes exactly when base
links lead from the one to the other, in any number or none. Deriving from a type is a partial
order in which the types that one type derives from are comparable, and what derives from a
reference type is one. -/
theorem hierarchy_of_ofCollection {collection : TypeCollection}
    (done : Schema.ofCollection collection = .ok schema) :
    (∀ base derived answer, Walk schema.types base (some derived) answer ↔
      schema.isAssignableFrom base derived = answer) ∧
    (∀ base derived, schema.isAssignableFrom base derived = true ↔
      ReflTransGen (Extends schema.types) derived base) ∧
    (∀ type, schema.isAssignableFrom type type = true) ∧
    (∀ base middle derived, schema.isAssignableFrom base middle = true →
      schema.isAssignableFrom middle derived = true → schema.isAssignableFrom base derived = true) ∧
    (∀ base derived, schema.isAssignableFrom base derived = true →
      schema.isAssignableFrom derived base = true → base = derived) ∧
    (∀ base other derived, schema.isAssignableFrom base derived = true →
      schema.isAssignableFrom other derived = true →
      schema.isAssignableFrom base other = true ∨ schema.isAssignableFrom other base = true) ∧
    ∀ type derived, schema.isReferenceType type = true → schema.isAssignableFrom type derived = true →
      schema.isReferenceType derived = true := by
  have grounded := grounded_of_ofCollection done
  refine ⟨?walks, fun base derived => isAssignableFrom_iff grounded, ?reflexive,
    fun base middle derived => isAssignableFrom_trans grounded,
    fun base derived => isAssignableFrom_antisymm grounded,
    fun base other derived => isAssignableFrom_total grounded,
    fun type derived reference derives => isAssignableFrom_trans grounded reference derives⟩
  case walks =>
    intro base derived answer
    have walk := walk_isAssignableFrom grounded base derived
    constructor
    · exact fun other => walk.unique other
    · exact fun same => same ▸ walk
  case reflexive => exact fun type => (isAssignableFrom_iff grounded).mpr .refl

/-- The built-in declarations with two more types, the one before its base, below the type for cell
references. -/
def streamed : TypeCollection :=
  { TypeCollection.baseline with
    types := TypeCollection.baseline.types ++
      [(TypeDecl.named "lodCellReferenceType").withBase "streamedCellReferenceType",
        (TypeDecl.named "streamedCellReferenceType").withBase Names.placementsCellReferenceType] }

/-- The walk goes up two links to the type for cell references, and not down again. From a foreign
index it ends at once. -/
theorem hierarchy_streamed :
    ∃ schema, Schema.ofCollection streamed = .ok schema ∧
      Walk schema.types ⟨2⟩ (some ⟨8⟩) true ∧ Walk schema.types ⟨8⟩ (some ⟨2⟩) false ∧
      Walk schema.types ⟨2⟩ (some ⟨10⟩) false ∧
      ReflTransGen (Extends schema.types) ⟨8⟩ ⟨2⟩ ∧ schema.isReferenceType ⟨8⟩ = true := by
  have answers : (Schema.ofCollection streamed).toOption.map (fun schema =>
      (schema.isAssignableFrom ⟨2⟩ ⟨8⟩, schema.isAssignableFrom ⟨8⟩ ⟨2⟩,
        schema.isAssignableFrom ⟨2⟩ ⟨10⟩, schema.isReferenceType ⟨2⟩)) =
      some (true, false, false, true) := by
    decide +kernel
  cases done : Schema.ofCollection streamed with
  | error error =>
    rw [done] at answers
    cases answers
  | ok schema =>
    rw [done] at answers
    simp only [Except.toOption, Option.map_some, Option.some.injEq, Prod.mk.injEq] at answers
    obtain ⟨up, down, foreign, reference⟩ := answers
    obtain ⟨walks, reaches, -, -, -, -, references⟩ := hierarchy_of_ofCollection done
    exact ⟨schema, rfl, (walks _ _ _).mpr up, (walks _ _ _).mpr down, (walks _ _ _).mpr foreign,
      (reaches _ _).mp up, references _ _ reference up⟩

end Schema

end LevelGraph
