import LevelGraph.Proofs.Schema.Inheritance

/-!
# The kind of a type

The types known by name are tried in a fixed order, and the first one that a type derives from gives it
its kind. A type is of no kind exactly when none of them is in its ancestry.

The nearest of them in the ancestry is the most specific one. It decides unless it derives from one that
is tried before it: of two that a type derives from one derives from the other, so whatever else is tried
first stands further up. In a schema where no type known by name derives from one tried before it, every
type has the kind of the nearest, and only there. The built-in declarations are such, but nothing demands
it of others.
-/

namespace LevelGraph

namespace Schema

open Relation

variable {schema : Schema} {type tag : TypeId} {kind : NodeKind}
  {earlier later : List (TypeId × NodeKind)}

/-- A type is one of those known by name. -/
def Tagged (schema : Schema) (type : TypeId) : Prop := ∃ kind, (type, kind) ∈ schema.tags.kinds

/-- The types known by name have kinds of their own, no two the same and none of them the other kind. -/
theorem nodup_kinds (tags : SchemaTags) :
    (tags.kinds.map (·.2)).Nodup ∧ ∀ tagged ∈ tags.kinds, tagged.2 ≠ .other := by
  constructor
  · rw [show tags.kinds.map (·.2) = [.cellReference, .placementsFolder, .game, .placementsDocument,
      .strata, .terrainBaseTexture] from rfl]
    decide
  · simp [SchemaTags.kinds]

/-- The first type known by name that a type derives from gives it its kind. -/
theorem kindOf_of_isFirst
    (first : IsFirst (fun tagged => schema.isAssignableFrom tagged.1 type = true) schema.tags.kinds
      (tag, kind)) : schema.kindOf type = kind := by
  rw [kindOf, find?_eq_some_iff_isFirst.mpr first]

/-- A type is of no kind exactly when it derives from none of them. -/
theorem kindOf_eq_other_iff :
    schema.kindOf type = .other ↔
      ∀ tagged ∈ schema.tags.kinds, schema.isAssignableFrom tagged.1 type = false := by
  constructor
  · intro other tagged listed
    by_contra derives
    obtain ⟨⟨tag, kind⟩, first⟩ := exists_isFirst
      (fun tagged => schema.isAssignableFrom tagged.1 type = true) listed (Bool.not_eq_false _ ▸ derives)
    rw [kindOf_of_isFirst first] at other
    exact (nodup_kinds schema.tags).2 _ first.mem other
  · intro apart
    rw [kindOf, List.find?_eq_none.mpr fun tagged listed =>
      Bool.not_eq_true _ ▸ apart tagged listed]

section Nearest

variable (grounded : schema.Grounded)

include grounded

/-- No type that is tried before the nearest one and that this one does not derive from is in the
ancestry.

Proof: the nearest one would be further up than it, and so not be the nearest. -/
theorem not_derives_of_nearest (nearest : schema.Nearest schema.Tagged type tag) {tried : TypeId}
    (tagged : schema.Tagged tried) (apart : schema.isAssignableFrom tried tag = false) :
    schema.isAssignableFrom tried type = false := by
  rw [Bool.eq_false_iff]
  intro derives
  have towards : schema.isAssignableFrom tag type = true :=
    (isAssignableFrom_iff grounded).mpr nearest.reaches
  have above : schema.isAssignableFrom tag tried = true :=
    (isAssignableFrom_total grounded derives towards).resolve_left (Bool.eq_false_iff.mp apart)
  rw [isAssignableFrom_iff grounded] at above derives
  rcases reflTransGen_iff_eq_or_transGen.mp above with same | below
  · rw [same, Bool.eq_false_iff] at apart
    exact apart ((isAssignableFrom_iff grounded).mpr .refl)
  · exact nearest.first tried derives below tagged

/-- A type has the kind of the nearest exactly when the nearest derives from none that is tried before
it. -/
theorem kindOf_eq_iff_of_nearest (nearest : schema.Nearest schema.Tagged type tag)
    (order : schema.tags.kinds = earlier ++ (tag, kind) :: later) :
    schema.kindOf type = kind ↔
      ∀ tried ∈ earlier, schema.isAssignableFrom tried.1 tag = false := by
  have listed (tried : TypeId × NodeKind) (before : tried ∈ earlier) :
      tried ∈ schema.tags.kinds := order ▸ List.mem_append_left _ before
  constructor
  · intro decided tried before
    rw [Bool.eq_false_iff]
    intro derives
    have reaches := nearest.reaches.trans ((isAssignableFrom_iff grounded).mp derives)
    -- Something before the nearest one comes first, and it has another kind.
    obtain ⟨⟨other, otherKind⟩, first⟩ := exists_isFirst
      (fun tagged => schema.isAssignableFrom tagged.1 type = true) before
      ((isAssignableFrom_iff grounded).mpr reaches)
    have whole : IsFirst (fun tagged => schema.isAssignableFrom tagged.1 type = true)
        schema.tags.kinds (other, otherKind) := by
      obtain ⟨front, back, rfl, derivesOther, lacking⟩ := first
      exact ⟨front, back ++ (tag, kind) :: later, by rw [order]; simp, derivesOther, lacking⟩
    have same : otherKind = kind := (kindOf_of_isFirst whole).symm.trans decided
    have distinct := (nodup_kinds schema.tags).1
    rw [order, List.map_append, List.map_cons, List.nodup_append] at distinct
    exact distinct.2.2 otherKind (List.mem_map_of_mem first.mem) kind List.mem_cons_self same
  · intro apart
    refine kindOf_of_isFirst ⟨earlier, later, order,
      (isAssignableFrom_iff grounded).mpr nearest.reaches, fun tried before => ?_⟩
    exact Bool.eq_false_iff.mp (not_derives_of_nearest grounded nearest
      ⟨tried.2, listed tried before⟩ (apart tried before))

/-- All types have the kind of the nearest exactly when no type known by name derives from one that is
tried before it. -/
theorem kindOf_eq_iff_pairwise :
    (∀ type tag kind, schema.Nearest schema.Tagged type tag → (tag, kind) ∈ schema.tags.kinds →
      schema.kindOf type = kind) ↔
      schema.tags.kinds.Pairwise fun earlier later =>
        schema.isAssignableFrom earlier.1 later.1 = false := by
  constructor
  · intro decided
    rw [List.pairwise_iff_getElem]
    intro first second _ inside before
    have listed : schema.tags.kinds[second] ∈ schema.tags.kinds := List.getElem_mem inside
    have nearest : schema.Nearest schema.Tagged schema.tags.kinds[second].1
        schema.tags.kinds[second].1 := .self grounded ⟨_, listed⟩
    have order : schema.tags.kinds = schema.tags.kinds.take second ++
        schema.tags.kinds[second] :: schema.tags.kinds.drop (second + 1) := by
      rw [List.getElem_cons_drop, List.take_append_drop]
    exact (kindOf_eq_iff_of_nearest grounded nearest order).mp (decided _ _ _ nearest listed) _
      (List.mem_take_iff_getElem.mpr ⟨first, by omega, rfl⟩)
  · intro ordered type tag kind nearest listed
    obtain ⟨earlier, later, order⟩ := List.append_of_mem listed
    refine (kindOf_eq_iff_of_nearest grounded nearest order).mpr fun tried before => ?_
    rw [order, List.pairwise_append] at ordered
    exact ordered.2.2 tried before _ List.mem_cons_self

end Nearest

/-- With the built-in declarations every type has the kind of the nearest. -/
theorem kindOf_builtin (nearest : Schema.builtin.Nearest Schema.builtin.Tagged type tag)
    (listed : (tag, kind) ∈ Schema.builtin.tags.kinds) : Schema.builtin.kindOf type = kind := by
  have ordered : Schema.builtin.tags.kinds.Pairwise fun earlier later =>
      Schema.builtin.isAssignableFrom earlier.1 later.1 = false := by
    decide +kernel
  have grounded := grounded_of_ofCollection Schema.ofCollection_baseline
  exact (kindOf_eq_iff_pairwise grounded).mpr ordered type tag kind nearest listed

/-- The kinds of the types of a schema that is built, declared or foreign. A type is of no kind exactly
when no type known by name is in its ancestry, and otherwise of the kind of the first one tried that is.
That is the nearest one exactly when the nearest one derives from none that is tried before it. So it is
the nearest one for every type exactly when no type known by name derives from one tried before it. -/
theorem kindOf_tried_first {collection : TypeCollection}
    (done : Schema.ofCollection collection = .ok schema) :
    (∀ type, schema.kindOf type = .other ↔
      ∀ above, ReflTransGen (Extends schema.types) type above → ¬ schema.Tagged above) ∧
    (∀ type tag kind, IsFirst (fun tagged => ReflTransGen (Extends schema.types) type tagged.1)
      schema.tags.kinds (tag, kind) → schema.kindOf type = kind) ∧
    (∀ type tag kind earlier later, schema.Nearest schema.Tagged type tag →
      schema.tags.kinds = earlier ++ (tag, kind) :: later →
      (schema.kindOf type = kind ↔
        ∀ tried ∈ earlier, schema.isAssignableFrom tried.1 tag = false)) ∧
    ((∀ type tag kind, schema.Nearest schema.Tagged type tag → (tag, kind) ∈ schema.tags.kinds →
        schema.kindOf type = kind) ↔
      schema.tags.kinds.Pairwise fun earlier later =>
        schema.isAssignableFrom earlier.1 later.1 = false) := by
  have grounded := grounded_of_ofCollection done
  refine ⟨fun type => ?other, fun type tag kind first => ?tried,
    fun type tag kind earlier later nearest => kindOf_eq_iff_of_nearest grounded nearest,
    kindOf_eq_iff_pairwise grounded⟩
  case other =>
    rw [kindOf_eq_other_iff]
    constructor
    · rintro apart above reaches ⟨kind, listed⟩
      exact Bool.eq_false_iff.mp (apart _ listed) ((isAssignableFrom_iff grounded).mpr reaches)
    · intro untagged tagged listed
      rw [Bool.eq_false_iff]
      exact fun derives =>
        untagged tagged.1 ((isAssignableFrom_iff grounded).mp derives) ⟨tagged.2, listed⟩
  case tried =>
    simp only [← isAssignableFrom_iff grounded] at first
    exact kindOf_of_isFirst first

/-- The types known by name and one more. Layers derive from base textures, which are tried after them,
and games derive from cell references, which are tried before them. -/
def nestedTags : TypeCollection :=
  ⟨"urn:nested", [(TypeDecl.named Names.gameType).withBase Names.placementsCellReferenceType,
    TypeDecl.named Names.placementsFolderType, TypeDecl.named Names.placementsCellReferenceType,
    TypeDecl.named Names.placementsDocumentType, TypeDecl.named Names.terrainBaseTextureType,
    (TypeDecl.named Names.terrainBaseTextureStrataType).withBase Names.terrainBaseTextureType,
    TypeDecl.named "skyType"]⟩

/-- Layers are of their own kind there. The type for games is the nearest one to itself, and yet it is of
the kind of cell references. -/
theorem kindOf_tried_first_nested :
    ∃ schema, Schema.ofCollection nestedTags = .ok schema ∧
      (schema.Nearest schema.Tagged ⟨5⟩ ⟨5⟩ ∧ schema.kindOf ⟨5⟩ = .strata) ∧
      (schema.Nearest schema.Tagged ⟨0⟩ ⟨0⟩ ∧ schema.kindOf ⟨0⟩ = .cellReference) ∧
      ¬ (∀ type tag kind, schema.Nearest schema.Tagged type tag → (tag, kind) ∈ schema.tags.kinds →
        schema.kindOf type = kind) ∧
      ∀ above, ReflTransGen (Extends schema.types) ⟨6⟩ above → ¬ schema.Tagged above := by
  have answers : (Schema.ofCollection nestedTags).toOption.map (fun schema =>
      (schema.tags.kinds, schema.isAssignableFrom ⟨2⟩ ⟨0⟩,
        (schema.tags.kinds.take 4).all fun tried => !schema.isAssignableFrom tried.1 ⟨5⟩,
        schema.kindOf ⟨6⟩)) =
      some ([(⟨2⟩, .cellReference), (⟨1⟩, .placementsFolder), (⟨0⟩, .game), (⟨3⟩, .placementsDocument),
        (⟨5⟩, .strata), (⟨4⟩, .terrainBaseTexture)], true, true, .other) := by
    decide +kernel
  obtain ⟨schema, done, answers⟩ := exists_ofCollection_of_map answers
  simp only [Prod.mk.injEq] at answers
  obtain ⟨order, derives, apart, unkind⟩ := answers
  have grounded := grounded_of_ofCollection done
  have strata : schema.Nearest schema.Tagged ⟨5⟩ ⟨5⟩ := .self grounded ⟨.strata, by simp [order]⟩
  have game : schema.Nearest schema.Tagged ⟨0⟩ ⟨0⟩ := .self grounded ⟨.game, by simp [order]⟩
  obtain ⟨other, tried, decides, -⟩ := kindOf_tried_first done
  have reference : schema.kindOf ⟨0⟩ = .cellReference :=
    tried _ _ _ ⟨[], _, order, (isAssignableFrom_iff grounded).mp derives, by simp⟩
  refine ⟨schema, done, ⟨strata, ?_⟩, ⟨game, reference⟩, fun nearest => ?_, (other _).mp unkind⟩
  · refine (decides _ _ _ (schema.tags.kinds.take 4) _ strata (by rw [order]; rfl)).mpr
      fun tagged listed => ?_
    exact (Bool.not_eq_true' _).mp (List.all_eq_true.mp apart tagged listed)
  · exact nomatch reference.symm.trans (nearest _ _ .game game (by simp [order]))

end Schema

end LevelGraph
