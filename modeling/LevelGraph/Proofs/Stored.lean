import LevelGraph.Record.Stored
import LevelGraph.Proofs.Records
import LevelGraph.Proofs.Json.ReadBack
import LevelGraph.Proofs.Json.Yields

/-!
# Stored trees read back

The text of a record is read as that record wherever the depth of its brackets is
within the reader's limit, and is found malformed beyond it. The writer knows no such
limit, so `ofStored_stored` is the exact rule for which stored trees can be read again.
Records whose texts agree are the same record at any depth, as a reader with enough
room gives both back.

Conversely, whatever text is read, the slots of the record are in order.
-/

namespace LevelGraph

namespace NodeRecord

/-- Each item is written by itself. -/
theorem writeItems_eq (items : List NodeRecord) : writeItems items = items.map write := by
  induction items with
  | nil => rfl
  | cons record rest inductionHypothesis => simp [writeItems, inductionHypothesis]

/-- Each slot is written by itself, as a list of its items. -/
theorem writeSlots_eq (slots : List (String × List NodeRecord)) :
    writeSlots slots = slots.map fun slot => (slot.1, Json.writeList (slot.2.map write)) := by
  induction slots with
  | nil => rfl
  | cons slot rest inductionHypothesis =>
    obtain ⟨name, items⟩ := slot
    simp [writeSlots, writeItems_eq, inductionHypothesis]

/-- There is room for items if there is room for each of them. -/
theorem itemsNesting_le_iff {items : List NodeRecord} {room : Nat} :
    itemsNesting items ≤ room ↔ ∀ item ∈ items, item.nesting ≤ room := by
  induction items with
  | nil => simp [itemsNesting]
  | cons record rest inductionHypothesis =>
    simp only [itemsNesting, Nat.max_le, inductionHypothesis, List.forall_mem_cons]

/-- There is room for slots if there is room for each item in them. -/
theorem slotsNesting_le_iff {slots : List (String × List NodeRecord)} {room : Nat} :
    slotsNesting slots ≤ room ↔ ∀ slot ∈ slots, ∀ item ∈ slot.2, item.nesting ≤ room := by
  induction slots with
  | nil => simp [slotsNesting]
  | cons slot rest inductionHypothesis =>
    obtain ⟨name, items⟩ := slot
    simp only [slotsNesting, Nat.max_le, itemsNesting_le_iff, inductionHypothesis, List.forall_mem_cons]

/-- Every record has at least its own bracket. -/
theorem nesting_pos (record : NodeRecord) : 0 < record.nesting := by
  obtain ⟨id, typeName, attributes, slots⟩ := record
  rw [nesting]
  omega

/-- A record's text begins a value. -/
theorem begins_write (record : NodeRecord) : Json.Begins record.write := by
  obtain ⟨id, typeName, attributes, slots⟩ := record
  rw [write, writeFields]
  exact Json.begins_writeObject _

/-- A record fits into the room there is when its own bracket, the bracket of its
attributes and the brackets around its child nodes do. -/
theorem nesting_le_iff (id : NodeId) (typeName : String) (attributes : Table String String)
    (slots : List (String × List NodeRecord)) (room : Nat) :
    nesting ⟨id, typeName, attributes, slots⟩ ≤ room ↔
      0 < room ∧ (attributes.isEmpty = false → 0 < room - 1) ∧
        (slots.isEmpty = false → 0 < room - 1 ∧ ∀ slot ∈ slots,
          0 < room - 1 - 1 ∧ ∀ item ∈ slot.2, item.nesting ≤ room - 3) := by
  rw [nesting]
  cases slots with
  | nil => cases attributes.isEmpty <;> simp <;> omega
  | cons first rest =>
    have held : 0 < room - 1 - 1 → ((∀ slot ∈ first :: rest,
        0 < room - 1 - 1 ∧ ∀ item ∈ slot.2, item.nesting ≤ room - 3) ↔
          slotsNesting (first :: rest) ≤ room - 3) := by
      intro roomy
      rw [slotsNesting_le_iff]
      exact ⟨fun all slot listed => (all slot listed).2, fun all slot listed => ⟨roomy, all slot listed⟩⟩
    simp only [List.isEmpty_cons, Bool.false_eq_true, if_false, true_imp_iff]
    constructor
    · intro small
      have roomy : 0 < room - 1 - 1 := by omega
      exact ⟨by omega, fun _ => by omega, by omega, (held roomy).mpr (by omega)⟩
    · rintro ⟨-, -, -, all⟩
      have roomy := (all first List.mem_cons_self).1
      have deep := (held roomy).mp all
      cases attributes.isEmpty <;> simp only [Bool.false_eq_true, if_false, if_true] <;> omega

section ReadBack

variable {room : Nat} {child : Json.Reader NodeRecord} {slots : List (String × List NodeRecord)}

/-- The written attributes fill a draft that has none. -/
theorem fills_attributes (attributes : Table String String) {draft : Draft}
    (free : draft.attributes = none) {members : List (String × List Char)} {fits : Prop}
    {last : Draft}
    (later : Json.Fills (fields room child)
      { draft with attributes := if attributes.isEmpty then none else some attributes }
      members fits last) :
    Json.Fills (fields room child) draft
      ((if attributes.isEmpty then []
        else [("attributes",
          Json.writeObject (attributes.entries.map fun entry => (entry.1, Json.quote entry.2)))]) ++
        members)
      ((attributes.isEmpty = false → 0 < room) ∧ fits) last := by
  cases empty : attributes.isEmpty with
  | true =>
    rw [empty] at later
    simpa [← free] using later
  | false =>
    have written : Json.ReadsBack (Json.readMap room Json.readString)
        (Json.writeObject (attributes.entries.map fun entry => (entry.1, Json.quote entry.2)))
        attributes.entries (0 < room ∧ ∀ entry ∈ attributes.entries, True) :=
      Json.readsBack_writeObject Json.quote (fun _ => True)
        (fun entry _ => Json.readsBack_quote entry.2) room
    have field := written.into fun members =>
      { draft with attributes := some (Table.ofList members) }
    rw [Table.ofList_entries] at field
    rw [empty] at later
    exact (Json.Fills.field rfl (by simp [free]) field later).of_iff (by simp)

/-- The written slots fill a draft that has none. -/
theorem fills_children {draft : Draft} (free : draft.children = none)
    (ordered : Entries.Ascending slots)
    (back : ∀ slot ∈ slots, ∀ item ∈ slot.2,
      Json.ReadsBack child item.write item (item.nesting ≤ room - 2)) :
    Json.Fills (fields room child) draft
      (if slots.isEmpty then [] else [("children", Json.writeObject (writeSlots slots))])
      (slots.isEmpty = false → 0 < room ∧ ∀ slot ∈ slots,
        0 < room - 1 ∧ ∀ item ∈ slot.2, item.nesting ≤ room - 2)
      { draft with children := if slots.isEmpty then none else some slots } := by
  cases empty : slots.isEmpty with
  | true =>
    have nothing := @Json.Fills.nothing _ (fields room child) draft
    exact (by simpa [← free] using nothing)
  | false =>
    have written : Json.ReadsBack (Json.readMap room (Json.readList (room - 1) child))
        (Json.writeObject (slots.map fun slot => (slot.1, Json.writeList (slot.2.map write))))
        slots (0 < room ∧ ∀ slot ∈ slots,
          0 < room - 1 ∧ ∀ item ∈ slot.2, item.nesting ≤ room - 2) :=
      Json.readsBack_writeObject (fun items => Json.writeList (items.map write))
        (fun items => 0 < room - 1 ∧ ∀ item ∈ items, item.nesting ≤ room - 2)
        (fun slot listed => Json.readsBack_writeList (fun item _ => begins_write item)
          (back slot listed) (room - 1)) room
    have field := written.into fun members =>
      { draft with children := some (Entries.ofList members) }
    rw [Entries.ofList_eq_self ordered, ← writeSlots_eq] at field
    exact (Json.Fills.field rfl (by simp [free]) field (.nothing _)).of_iff (by simp)

/-- A record reads back where its child nodes do.

Proof: the four members fill an empty draft one after the other; attributes and slots
that are not written leave the draft as it is. -/
theorem readsBack_readWith (id : NodeId) (typeName : String) (attributes : Table String String)
    (ordered : Entries.Ascending slots) (room : Nat)
    (back : ∀ slot ∈ slots, ∀ item ∈ slot.2,
      Json.ReadsBack child item.write item (item.nesting ≤ room - 3)) :
    Json.ReadsBack (readWith room child) (write ⟨id, typeName, attributes, slots⟩)
      ⟨id, typeName, attributes, slots⟩ (nesting ⟨id, typeName, attributes, slots⟩ ≤ room) := by
  have identified : Json.ReadsBack (Json.readSpelled Uuid.ofString?) (writeId id) id True :=
    Json.readsBack_spelled (Uuid.ofString?_chars id)
  have attributesFill := @fills_attributes (room - 1) child attributes
    ⟨some id, some typeName, none, none⟩ rfl _ _ _ (fills_children rfl ordered back)
  have fills : Json.Fills (fields (room - 1) child) ⟨none, none, none, none⟩
      (("id", writeId id) :: ("type", Json.quote typeName) :: _) _ _ :=
    .plain rfl rfl (identified.into _) (.plain rfl rfl ((Json.readsBack_quote typeName).into _)
      attributesFill)
  have complete : Draft.complete?
      ⟨some id, some typeName, if attributes.isEmpty then none else some attributes,
        if slots.isEmpty then none else some slots⟩ = some ⟨id, typeName, attributes, slots⟩ := by
    have keptAttributes : (if attributes.isEmpty then none else some attributes).getD Table.empty =
        attributes := by
      split
      · next empty => exact (Table.eq_empty_of_isEmpty empty).symm
      · rfl
    have keptSlots : (if slots.isEmpty then none else some slots).getD [] = slots := by
      split
      · next empty => exact (List.isEmpty_iff.mp empty).symm
      · rfl
    simp only [Draft.complete?, keptAttributes, keptSlots]
  have asEmpty : (writeSlots slots).isEmpty = slots.isEmpty := by
    rw [writeSlots_eq, List.isEmpty_map]
  rw [write, writeFields, asEmpty, readWith]
  refine (Json.readsBack_struct fills complete room false).of_iff ?_
  rw [nesting_le_iff]
  rfl

end ReadBack

/-- Every record in order reads back where its brackets fit into the room.

Proof: induction on the record. A child node has three brackets less room than its owner,
and none where less than three are left, which no record fits into. -/
theorem readsBack_readRoom {record : NodeRecord} (ordered : record.Ordered) (room : Nat) :
    Json.ReadsBack (readRoom room) record.write record (record.nesting ≤ room) := by
  induction record using NodeRecord.induct generalizing room with
  | step id typeName attributes slots inductionHypothesis =>
    obtain ⟨ascending, below⟩ := (ordered_iff _ _ _ _).mp ordered
    match room with
    | room + 3 =>
      exact readsBack_readWith id typeName attributes ascending (room + 3)
        fun slot listed item held => inductionHypothesis slot listed item held
          (below slot listed item held) room
    | 0 | 1 | 2 =>
      refine readsBack_readWith id typeName attributes ascending _ fun _ _ item _ => ?_
      have tight : ¬ item.nesting ≤ 0 := Nat.not_le_of_gt item.nesting_pos
      exact ⟨fun fits => absurd fits tight, fun _ _ => rfl⟩

/-- A stored record in order is read again exactly where its brackets stay within the
reader's limit; deeper, its text is found malformed. -/
theorem ofStored_stored {record : NodeRecord} (ordered : record.Ordered) :
    ofStored record.stored =
      if record.nesting ≤ Json.maxDepth then .ok record else .error .malformed := by
  obtain ⟨whole, refused⟩ := Json.read_of_readsBack (readsBack_readRoom ordered Json.maxDepth)
  split
  · next fits => exact whole fits
  · next deep => exact refused deep

/-- Records in order with the same text are the same.

Proof: a reader with room for both reads both from the one text. -/
theorem eq_of_stored_eq {first second : NodeRecord} (firstOrdered : first.Ordered)
    (secondOrdered : second.Ordered) (same : first.stored = second.stored) : first = second := by
  have roomForFirst := Nat.le_max_left first.nesting second.nesting
  have roomForSecond := Nat.le_max_right first.nesting second.nesting
  have readFirst := (Json.read_of_readsBack (readsBack_readRoom firstOrdered _)).1 roomForFirst
  have readSecond := (Json.read_of_readsBack (readsBack_readRoom secondOrdered _)).1 roomForSecond
  rw [show String.ofList first.write = String.ofList second.write from same, readSecond] at readFirst
  exact (Except.ok.inj readFirst).symm

/-- The slots that a draft has ascend, with nodes in order in them. -/
def Draft.Ordered (draft : Draft) : Prop :=
  ∀ slots, draft.children = some slots →
    Entries.Ascending slots ∧ ∀ slot ∈ slots, ∀ item ∈ slot.2, item.Ordered

/-- A record is in order where its child nodes are. -/
theorem yields_readWith {child : Json.Reader NodeRecord} (below : Json.Yields child Ordered)
    (room : Nat) : Json.Yields (readWith room child) Ordered := by
  refine @Json.yields_readStruct _ _ Draft.Ordered _ _ _ _ ?_ ?_ ?_ room false
  · intro field listed draft ordered
    have others (next : Draft) (same : next.children = draft.children) : next.Ordered :=
      fun slots held => ordered slots (same.symm.trans held)
    simp only [fields, List.mem_cons, List.not_mem_nil, or_false] at listed
    rcases listed with rfl | rfl | rfl | rfl
    · exact (Json.yields_any _).into fun id _ => others { draft with id := some id } rfl
    · exact (Json.yields_any _).into fun typeName _ =>
        others { draft with typeName := some typeName } rfl
    · exact (Json.yields_any _).into fun members _ =>
        others { draft with attributes := some (Table.ofList members) } rfl
    · refine (Json.yields_readMap (Json.yields_readList below _) _).into ?_
      intro members inOrder slots held
      cases held
      exact ⟨Entries.ascending_ofList members,
        fun slot inSlots => inOrder slot (Entries.mem_of_mem_ofList inSlots)⟩
  · intro slots held
    cases held
  · rintro ⟨id, typeName, attributes, children⟩ record ordered complete
    unfold Draft.complete? at complete
    split at complete
    · cases complete
      rw [ordered_iff]
      cases children with
      | none => exact ⟨Entries.ascending_nil, fun _ listed => nomatch listed⟩
      | some slots => exact ordered slots rfl
    · cases complete

/-- Whatever text a record is read from, its slots are in order.

Proof: three brackets deeper, the same reader reads the child nodes. -/
theorem ordered_of_ofStored {text : String} {record : NodeRecord}
    (read : ofStored text = .ok record) : record.Ordered := by
  have rooms (room : Nat) : Json.Yields (readRoom room) Ordered := by
    induction room using readRoom.induct with
    | case1 room inductionHypothesis => exact yields_readWith inductionHypothesis (room + 3)
    | case2 room tight =>
      rw [readRoom]
      · exact yields_readWith (fun _ _ _ done => by cases done) room
      · exact tight
  exact (rooms Json.maxDepth).read read

end NodeRecord

end LevelGraph
