import LevelGraph.Editor.Registry
import LevelGraph.Proofs.Schema.Inheritance
import LevelGraph.Proofs.Tables

/-!
# What a registry holds

A registry is filled by requests, each for a type and a descriptor that names one of the type's slots.
`Reflects` says what there is in it after any requests to one that was empty: the descriptors that were
accepted, each under the slot that it names. A request is accepted when the type has the slot, declared
there or inherited, and nothing was accepted for them before. What was refused has left no trace, so it
does not count as before.

Descriptors are inherited like slots, from the nearest type that has one. They are found on the way up
the same chain, which is why no descriptor is found for a slot that a type does not have.
-/

namespace LevelGraph

open Relation

/-- Slots of one type are in the order of their names. -/
theorem SlotKey.before_iff_of_owner {first second : SlotKey} (same : first.owner = second.owner) :
    KeyOrder.before first second = true ↔ first.slot < second.slot := by
  change SlotKey.before first second = true ↔ _
  rw [SlotKey.before, same, KeyOrder.before_irrefl, decide_eq_true rfl, Bool.false_or, Bool.true_and]
  exact decide_eq_true_iff

namespace Registry

/-- A descriptor and the type to register it for. -/
structure Request where
  /-- The type. -/
  owner : TypeId
  /-- The descriptor. -/
  descriptor : Descriptor

/-- The slot that a request is about. -/
def Request.key (request : Request) : SlotKey := ⟨request.owner, request.descriptor.slot⟩

/-- A registry accepts a request. -/
def Accepts (registry : Registry) (schema : Schema) (request : Request) : Prop :=
  ∃ next, registry.register schema request.owner request.descriptor = .ok next

/-- The registry after a request; one that is refused leaves it as it is. -/
def serve (schema : Schema) (registry : Registry) (request : Request) : Registry :=
  (registry.register schema request.owner request.descriptor).toOption.getD registry

/-- The registry after requests, one after the other, to one that was empty. -/
def ofRequests (schema : Schema) (requests : List Request) : Registry :=
  requests.foldl (serve schema) empty

/-- A request was accepted when its turn came. -/
def Accepted (schema : Schema) (requests : List Request) (request : Request) : Prop :=
  ∃ earlier later, requests = earlier ++ request :: later ∧
    (ofRequests schema earlier).Accepts schema request

/-- What a registry holds and finds after requests. -/
structure Reflects (schema : Schema) (requests : List Request) (registry : Registry) : Prop where
  /-- A further request is accepted if the type has the slot, its own or inherited, and none was
  accepted that is about the same. -/
  accepts : ∀ request, registry.Accepts schema request ↔
    (∃ info, schema.childInfo? request.owner request.descriptor.slot = some info) ∧
      ∀ earlier, Accepted schema requests earlier → earlier.key ≠ request.key
  /-- If it is refused, the registry stays as it is. -/
  refuses : ∀ request, ¬ registry.Accepts schema request →
    ofRequests schema (requests ++ [request]) = registry
  /-- It holds what was accepted. -/
  holds : ∀ owner slot descriptor, registry.get? owner slot = some descriptor ↔
    descriptor.slot = slot ∧ Accepted schema requests ⟨owner, descriptor⟩
  /-- Every entry's descriptor names the slot under which it stands. -/
  named : ∀ entry ∈ registry.entries.entries, entry.2.slot = entry.1.slot
  /-- The descriptor found for a type is that of the nearest type that has one for the slot. -/
  nearest : ∀ type slot descriptor, registry.descriptorFor? schema type slot = some descriptor ↔
    ∃ owner, schema.Nearest (fun owner => (registry.get? owner slot).isSome = true) type owner ∧
      registry.get? owner slot = some descriptor
  /-- None is found exactly when no type of the ancestry has one. -/
  missing : ∀ type slot, registry.descriptorFor? schema type slot = none ↔
    ∀ above, ReflTransGen (Extends schema.types) type above → registry.get? above slot = none
  /-- One is found only for a slot that the type has. -/
  slotted : ∀ type slot descriptor, registry.descriptorFor? schema type slot = some descriptor →
    ∃ info, schema.childInfo? type slot = some info
  /-- The descriptors listed for a type are its own. -/
  own : ∀ owner descriptor, descriptor ∈ registry.ownDescriptors owner ↔
    registry.get? owner descriptor.slot = some descriptor
  /-- They are listed in ascending order of slot, none twice. -/
  ordered : ∀ owner, (registry.ownDescriptors owner).Pairwise fun first second =>
    first.slot < second.slot

variable {schema : Schema} {registry : Registry} {request : Request} {requests : List Request}
  {owner : TypeId} {slot : String} {descriptor : Descriptor}

/-- A registry accepts a request for a slot that the type has and that is still free, and adds the
descriptor under that slot. -/
theorem register_eq_ok_iff {next : Registry} :
    registry.register schema owner descriptor = .ok next ↔
      (∃ info, schema.childInfo? owner descriptor.slot = some info) ∧
        registry.get? owner descriptor.slot = none ∧
        next = ⟨registry.entries.insert ⟨owner, descriptor.slot⟩ descriptor⟩ := by
  unfold register
  cases schema.childInfo? owner descriptor.slot with
  | none => simp
  | some info => cases registry.get? owner descriptor.slot <;> simp [eq_comm]

/-- A request is accepted if its owner has the slot, inherited or its own, and nothing is registered
there yet. -/
theorem accepts_iff :
    registry.Accepts schema request ↔
      (∃ info, schema.childInfo? request.owner request.descriptor.slot = some info) ∧
        registry.get? request.owner request.descriptor.slot = none := by
  simp only [Accepts, register_eq_ok_iff, exists_and_left, exists_eq, and_true]

/-- The last request is served in the registry that the earlier ones make. -/
theorem ofRequests_append (requests : List Request) (request : Request) :
    ofRequests schema (requests ++ [request]) = serve schema (ofRequests schema requests) request := by
  rw [ofRequests, List.foldl_append]
  rfl

/-- A refused request leaves a registry as it is. -/
theorem serve_of_not_accepts (refused : ¬ registry.Accepts schema request) :
    serve schema registry request = registry := by
  unfold serve
  cases outcome : registry.register schema request.owner request.descriptor with
  | ok next => exact absurd ⟨next, outcome⟩ refused
  | error => rfl

/-- An accepted one adds the descriptor under its slot, and nothing else changes. -/
theorem get?_serve_of_accepts (accepted : registry.Accepts schema request) :
    (serve schema registry request).get? owner slot =
      if (⟨owner, slot⟩ : SlotKey) = request.key then some request.descriptor
      else registry.get? owner slot := by
  obtain ⟨next, done⟩ := accepted
  rw [serve, done, Except.toOption, Option.getD_some]
  obtain ⟨-, -, rfl⟩ := register_eq_ok_iff.mp done
  exact Table.find?_insert _ _ _ _

/-- A request has been accepted after one more request if it had been accepted before, or is that one and
was accepted last. -/
theorem accepted_append_iff {last : Request} :
    Accepted schema (requests ++ [last]) request ↔
      Accepted schema requests request ∨
        (request = last ∧ (ofRequests schema requests).Accepts schema last) := by
  constructor
  · rintro ⟨earlier, later, order, accepted⟩
    rcases List.eq_nil_or_concat later with rfl | ⟨later, final, rfl⟩
    · obtain ⟨rfl, same⟩ := List.append_inj' order rfl
      cases same
      exact .inr ⟨rfl, accepted⟩
    · rw [List.concat_eq_append, ← List.cons_append, ← List.append_assoc] at order
      obtain ⟨rfl, -⟩ := List.append_inj' order rfl
      exact .inl ⟨earlier, later, rfl, accepted⟩
  · rintro (⟨earlier, later, rfl, accepted⟩ | ⟨rfl, accepted⟩)
    · exact ⟨earlier, later ++ [last], by simp, accepted⟩
    · exact ⟨requests, [], rfl, accepted⟩

/-- A registry holds what was accepted.

Proof: induction on the requests, the last one last. If it is refused, nothing has changed. If it is
accepted, its slot was free. -/
theorem get?_ofRequests_eq_some_iff :
    (ofRequests schema requests).get? owner slot = some descriptor ↔
      descriptor.slot = slot ∧ Accepted schema requests ⟨owner, descriptor⟩ := by
  induction requests using List.reverseRecOn generalizing owner slot descriptor with
  | nil =>
    simp [ofRequests, get?, empty, Accepted]
  | append_singleton requests last inductionHypothesis =>
    rw [ofRequests_append, accepted_append_iff]
    by_cases accepted : (ofRequests schema requests).Accepts schema last
    · obtain ⟨-, free⟩ := accepts_iff.mp accepted
      rw [get?_serve_of_accepts accepted]
      split
      · next here =>
        cases here
        constructor
        · rintro ⟨⟩
          exact ⟨rfl, .inr ⟨rfl, accepted⟩⟩
        · rintro ⟨same, before | ⟨isLast, -⟩⟩
          · cases free.symm.trans (inductionHypothesis.mpr ⟨same, before⟩)
          · exact congrArg (some ·.descriptor) isLast.symm
      · next elsewhere =>
        rw [inductionHypothesis]
        refine and_congr_right fun same => (or_iff_left ?_).symm
        rintro ⟨rfl, -⟩
        exact elsewhere (congrArg (SlotKey.mk owner) same.symm)
    · rw [serve_of_not_accepts accepted, inductionHypothesis]
      simp [accepted]

/-- What is registered for a type is for a slot that the type has. -/
theorem exists_childInfo?_of_get? (held : (ofRequests schema requests).get? owner slot = some descriptor) :
    ∃ info, schema.childInfo? owner slot = some info := by
  obtain ⟨rfl, earlier, later, -, accepted⟩ := get?_ofRequests_eq_some_iff.mp held
  exact (accepts_iff.mp accepted).1

/-- A slot is free exactly when nothing was accepted for it. -/
theorem get?_ofRequests_eq_none_iff :
    (ofRequests schema requests).get? owner slot = none ↔
      ∀ earlier, Accepted schema requests earlier → earlier.key ≠ ⟨owner, slot⟩ := by
  rw [Option.eq_none_iff_forall_ne_some]
  constructor
  · rintro free ⟨other, descriptor⟩ accepted same
    cases same
    exact free descriptor (get?_ofRequests_eq_some_iff.mpr ⟨rfl, accepted⟩)
  · intro free descriptor held
    obtain ⟨rfl, accepted⟩ := get?_ofRequests_eq_some_iff.mp held
    exact free _ accepted rfl

/-- An entry is what is held under its slot. -/
theorem mem_entries_iff {key : SlotKey} :
    (key, descriptor) ∈ registry.entries.entries ↔
      registry.get? key.owner key.slot = some descriptor :=
  registry.entries.mem_entries_iff key descriptor

/-- Where descriptors name the slots under which they stand, those of a type are listed. -/
theorem mem_ownDescriptors_iff
    (named : ∀ entry ∈ registry.entries.entries, entry.2.slot = entry.1.slot) :
    descriptor ∈ registry.ownDescriptors owner ↔
      registry.get? owner descriptor.slot = some descriptor := by
  rw [ownDescriptors, List.mem_filterMap]
  constructor
  · rintro ⟨⟨key, held⟩, listed, isOwn⟩
    split at isOwn
    · next own =>
      cases isOwn
      rw [named _ listed, ← own]
      exact mem_entries_iff.mp listed
    · cases isOwn
  · intro held
    exact ⟨(⟨owner, descriptor.slot⟩, descriptor), mem_entries_iff.mpr held, if_pos rfl⟩

/-- They are listed in the order of their slots. -/
theorem pairwise_ownDescriptors
    (named : ∀ entry ∈ registry.entries.entries, entry.2.slot = entry.1.slot) (owner : TypeId) :
    (registry.ownDescriptors owner).Pairwise fun first second => first.slot < second.slot := by
  rw [ownDescriptors, List.pairwise_filterMap]
  refine registry.entries.ascending.imp_of_mem ?_
  intro left right leftListed rightListed before first isFirst second isSecond
  split at isFirst
  · next leftOwn =>
    split at isSecond
    · next rightOwn =>
      cases isFirst
      cases isSecond
      rw [named _ leftListed, named _ rightListed]
      exact (SlotKey.before_iff_of_owner (leftOwn.trans rightOwn.symm)).mp before
    · cases isSecond
  · cases isFirst

/-- After any requests, a registry that was empty holds what was accepted of them, finds it for the types
that derive from those it was registered for, and lists it for these in order. -/
theorem ofRequests_reflects {collection : TypeCollection}
    (done : Schema.ofCollection collection = .ok schema) (requests : List Request) :
    (ofRequests schema requests).Reflects schema requests := by
  have grounded := Schema.grounded_of_ofCollection done
  have named : ∀ entry ∈ (ofRequests schema requests).entries.entries, entry.2.slot = entry.1.slot :=
    fun entry listed => (get?_ofRequests_eq_some_iff.mp (mem_entries_iff.mp listed)).1
  refine {
    accepts := fun request => ?accepts
    refuses := fun request refused => ?refuses
    holds := fun owner slot descriptor => get?_ofRequests_eq_some_iff
    named := named
    nearest := fun type slot descriptor => Schema.findSome?_ancestry_eq_some_iff grounded
    missing := fun type slot => Schema.findSome?_ancestry_eq_none_iff grounded
    slotted := fun type slot descriptor found => ?slotted
    own := fun owner descriptor => mem_ownDescriptors_iff named
    ordered := pairwise_ownDescriptors named }
  case accepts =>
    rw [accepts_iff, get?_ofRequests_eq_none_iff]
    rfl
  case refuses => rw [ofRequests_append, serve_of_not_accepts refused]
  case slotted =>
    obtain ⟨owner, nearest, held⟩ := (Schema.findSome?_ancestry_eq_some_iff grounded).mp found
    obtain ⟨info, has⟩ := exists_childInfo?_of_get? held
    exact Schema.exists_childInfo?_of_derives grounded nearest.reaches has

/-- The layers of the built-in base texture and those of a type two links below it have descriptors of
their own, and one for a slot that no type declares is refused. The type between them has the built-in
one, which cannot be registered again. -/
theorem ofRequests_reflects_layered :
    let fine : Request := ⟨⟨10⟩, .plain "Fine" Names.strataChild "Layers of a fine texture"⟩
    let unknown : Request := ⟨⟨6⟩, .plain "Layers" "layers" "No such slot"⟩
    let builtin : Request := ⟨⟨6⟩, .plain "Strata" Names.strataChild "Layers of a texture"⟩
    ∃ schema, Schema.ofCollection Schema.layered = .ok schema ∧
      let registry := ofRequests schema [fine, unknown, builtin]
      (∃ owner, schema.Nearest (fun owner => (registry.get? owner Names.strataChild).isSome = true)
          ⟨8⟩ owner ∧ registry.get? owner Names.strataChild = some builtin.descriptor) ∧
        (∃ info, schema.childInfo? ⟨8⟩ Names.strataChild = some info) ∧
        Accepted schema [fine, unknown, builtin] fine ∧
        Accepted schema [fine, unknown, builtin] builtin ∧ ¬ registry.Accepts schema builtin ∧
        (∀ above, ReflTransGen (Extends schema.types) ⟨10⟩ above →
          registry.get? above "layers" = none) ∧
        fine.descriptor ∈ registry.ownDescriptors ⟨10⟩ := by
  intro fine unknown builtin
  have answers : (Schema.ofCollection Schema.layered).toOption.map (fun schema =>
      let registry := ofRequests schema [fine, unknown, builtin]
      (registry.descriptorFor? schema ⟨8⟩ Names.strataChild, registry.get? ⟨10⟩ Names.strataChild,
        registry.get? ⟨6⟩ Names.strataChild, registry.descriptorFor? schema ⟨10⟩ "layers")) =
      some (some builtin.descriptor, some fine.descriptor, some builtin.descriptor, none) := by
    decide +kernel
  obtain ⟨schema, done, answers⟩ := Schema.exists_ofCollection_of_map answers
  simp only [Prod.mk.injEq] at answers
  obtain ⟨between, finest, upmost, nothing⟩ := answers
  have reflects := ofRequests_reflects done [fine, unknown, builtin]
  have accepted := ((reflects.holds _ _ _).mp upmost).2
  refine ⟨schema, done, (reflects.nearest _ _ _).mp between, reflects.slotted _ _ _ between,
    ((reflects.holds _ _ _).mp finest).2, accepted, fun again => ?_,
    (reflects.missing _ _).mp nothing, (reflects.own _ _).mpr finest⟩
  exact ((reflects.accepts builtin).mp again).2 builtin accepted rfl

end Registry

end LevelGraph
