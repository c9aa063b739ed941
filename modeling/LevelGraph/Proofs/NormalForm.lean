import LevelGraph.Proofs.Repositories

/-!
# The normal form of stored texts

A text is read leniently: space, the order of members, unknown members, a list in the place of the
object, repeated names and other spellings of identifiers all make no difference to the record. The
record is written in one form only, and that form is read again, because a record that has been read
nests no deeper than the reader allows. So texts that are readable fall into classes, one for each
record, and every class has its normal form in it.

Of the records that were never read the same is true up to the reader's limit, which is exact: a
bracket that is the 128th open one is refused, even where nothing stands in it.
-/

namespace LevelGraph

namespace NodeRecord

/-- What a draft has fits into the room inside the record's own bracket. -/
structure Draft.Fits (draft : Draft) (room : Nat) : Prop where
  /-- Attributes need a bracket. -/
  attributes : draft.attributes.isSome = true → 0 < room
  /-- Slots need a bracket, each slot another one, and the nodes in it what they need. -/
  slots : ∀ slots, draft.children = some slots →
    0 < room ∧ ∀ slot ∈ slots, 0 < room - 1 ∧ ∀ item ∈ slot.2, item.nesting ≤ room - 2

/-- A record that is read fits into the room where its child nodes do.

Proof: the members that open brackets are read only where there is room for them, and what they
put into the draft stays within it. -/
theorem fits_readWith {child : Json.Reader NodeRecord} {room : Nat}
    (below : Json.Yields child fun item => item.nesting ≤ room - 3) :
    Json.Yields (readWith room child) fun record => record.nesting ≤ room := by
  have drafted : Json.Yields (readWith room child) fun record => 0 < room →
      record.nesting ≤ room := by
    refine @Json.yields_readStruct _ _ (fun draft => draft.Fits (room - 1)) _ _ _ _ ?_ ?_ ?_ room false
    · intro field listed draft fits
      simp only [fields, List.mem_cons, List.not_mem_nil, or_false] at listed
      rcases listed with rfl | rfl | rfl | rfl
      · exact (Json.yields_any _).into fun id _ => ⟨fits.attributes, fits.slots⟩
      · exact (Json.yields_any _).into fun typeName _ => ⟨fits.attributes, fits.slots⟩
      · exact (Json.room_of_readMap _ _).into fun members roomy => ⟨fun _ => roomy, fits.slots⟩
      · have lists := (Json.room_of_readList child (room - 1 - 1)).and
          (Json.yields_readList below (room - 1 - 1))
        refine ((Json.room_of_readMap _ _).and (Json.yields_readMap lists _)).into ?_
        rintro members ⟨roomy, inside⟩
        refine ⟨fits.attributes, fun slots held => ?_⟩
        cases held
        exact ⟨roomy, fun slot listed => inside slot (Entries.mem_of_mem_ofList listed)⟩
    · exact ⟨fun held => (by cases held), fun slots held => (by cases held)⟩
    · rintro ⟨id, typeName, attributes, children⟩ record fits complete roomy
      unfold Draft.complete? at complete
      split at complete
      · cases complete
        rw [nesting_le_iff]
        refine ⟨roomy, fun used => ?_, fun used => ?_⟩
        · cases attributes with
          | none => cases used
          | some => exact fits.attributes rfl
        · cases children with
          | none => cases used
          | some slots => exact fits.slots slots rfl
      · cases complete
  exact fun _ _ _ done => drafted done (Json.room_of_readStruct room false done)

/-- Whatever text a record is read from, its brackets stay within the reader's limit.

Proof: three brackets deeper, the same reader reads the child nodes. -/
theorem nesting_le_of_ofStored {text : String} {record : NodeRecord}
    (read : ofStored text = .ok record) : record.nesting ≤ Json.maxDepth := by
  have rooms (room : Nat) : Json.Yields (readRoom room) fun record => record.nesting ≤ room := by
    induction room using readRoom.induct with
    | case1 room inductionHypothesis => exact fits_readWith inductionHypothesis
    | case2 room tight =>
      rw [readRoom]
      · exact fits_readWith fun _ _ _ done => by cases done
      · exact tight
  exact (rooms Json.maxDepth).read read

/-- The nodes of two lists nest as deep as the deeper list. -/
theorem itemsNesting_append (front back : List NodeRecord) :
    itemsNesting (front ++ back) = max (itemsNesting front) (itemsNesting back) := by
  induction front with
  | nil => simp [itemsNesting]
  | cons record rest inductionHypothesis =>
    rw [List.cons_append, itemsNesting, itemsNesting, inductionHypothesis, Nat.max_assoc]

/-- Slots nest as deeply as all their nodes in one list. -/
theorem slotsNesting_eq (slots : List (String × List NodeRecord)) :
    slotsNesting slots = itemsNesting (slots.flatMap (·.2)) := by
  induction slots with
  | nil => rfl
  | cons slot rest inductionHypothesis =>
    obtain ⟨name, items⟩ := slot
    rw [slotsNesting, List.flatMap_cons, itemsNesting_append, inductionHypothesis]

/-- Items nest as deeply as the deepest of them. -/
theorem itemsNesting_eq (items : List NodeRecord) :
    itemsNesting items = (items.map nesting).foldr max 0 := by
  induction items with
  | nil => rfl
  | cons record rest inductionHypothesis =>
    rw [itemsNesting, List.map_cons, List.foldr_cons, inductionHypothesis]

/-- A record in order has one bracket of its own, one around its attributes if it has any, and two
around the deepest of its child nodes if it has slots, be they empty. Its text is read as the record,
and as no other one, when these are at most 127, and is found malformed otherwise. -/
theorem ofStored_stored_eq_ok_iff {record : NodeRecord} (ordered : record.Ordered) :
    record.nesting = 1 + max (if record.attributes.isEmpty then 0 else 1)
      (if record.children.isEmpty then 0
        else 2 + ((record.children.flatMap (·.2)).map nesting).foldr max 0) ∧
    (∀ other, ofStored record.stored = .ok other ↔ record.nesting ≤ 127 ∧ other = record) ∧
    (127 < record.nesting → ofStored record.stored = .error .malformed) := by
  have back := ofStored_stored ordered
  refine ⟨?counted, fun other => ?read, fun deep => ?refused⟩
  case counted =>
    obtain ⟨id, typeName, attributes, slots⟩ := record
    rw [nesting, slotsNesting_eq, itemsNesting_eq]
  case read =>
    by_cases fits : record.nesting ≤ Json.maxDepth
    · rw [back, if_pos fits, Except.ok.injEq]
      exact ⟨fun same => ⟨fits, same.symm⟩, fun both => both.2.symm⟩
    · rw [back, if_neg fits]
      exact iff_of_false (by simp) fun both => fits both.1
  case refused =>
    have tight : ¬ record.nesting ≤ Json.maxDepth := Nat.not_le_of_gt deep
    rw [back, if_neg tight]

/-- A record without its empty slots nests no deeper. -/
theorem nesting_pruned_le (record : NodeRecord) : record.pruned.nesting ≤ record.nesting := by
  induction record using induct with
  | step id typeName attributes slots inductionHypothesis =>
    obtain ⟨own, described, filled⟩ :=
      (nesting_le_iff id typeName attributes slots _).mp (Nat.le_refl _)
    rw [pruned_eq, nesting_le_iff]
    refine ⟨own, described, fun used => ?_⟩
    have unpruned : slots.isEmpty = false := by
      cases slots with
      | nil => cases used
      | cons => rfl
    obtain ⟨roomy, each⟩ := filled unpruned
    refine ⟨roomy, fun slot listed => ?_⟩
    obtain ⟨old, kept, rfl⟩ := List.mem_map.mp listed
    have held := List.mem_of_mem_filter kept
    refine ⟨(each old held).1, fun item inside => ?_⟩
    obtain ⟨before, inOld, rfl⟩ := List.mem_map.mp inside
    exact Nat.le_trans (inductionHypothesis old held before inOld) ((each old held).2 before inOld)

/-- A node with so many others above it, each the only one in a slot of the next. -/
def hung : Nat → NodeRecord → NodeRecord
  | 0, lowest => lowest
  | above + 1, lowest =>
    ⟨Uuid.ofNat above, "a \"type\"", Table.empty, [("slot\n", [hung above lowest])]⟩

/-- A node with an attribute. -/
def described (id : NodeId) : NodeRecord :=
  ⟨id, "leaf", Table.empty.insert "tab\t" "\x01 and é", []⟩

/-- A chain on top of an ordered record is ordered. -/
theorem ordered_hung {lowest : NodeRecord} (ordered : lowest.Ordered) (above : Nat) :
    (hung above lowest).Ordered := by
  induction above with
  | zero => exact ordered
  | succ above inductionHypothesis =>
    rw [hung, ordered_iff]
    exact ⟨List.pairwise_singleton _ _, by simpa using inductionHypothesis⟩

/-- Below forty-two nodes a bare one is just read again, and one with an attribute is not. -/
theorem ofStored_stored_hung :
    (hung 42 (leaf (Uuid.ofNat 42) "leaf")).Ordered ∧ (hung 42 (described (Uuid.ofNat 42))).Ordered ∧
      ofStored (hung 42 (leaf (Uuid.ofNat 42) "leaf")).stored =
        .ok (hung 42 (leaf (Uuid.ofNat 42) "leaf")) ∧
      ofStored (hung 42 (described (Uuid.ofNat 42))).stored = .error .malformed := by
  have bare : (leaf (Uuid.ofNat 42) "leaf").Ordered := (ordered_iff _ _ _ _).mpr
    ⟨Entries.ascending_nil, fun _ listed => nomatch listed⟩
  have named : (described (Uuid.ofNat 42)).Ordered := (ordered_iff _ _ _ _).mpr
    ⟨Entries.ascending_nil, fun _ listed => nomatch listed⟩
  refine ⟨ordered_hung bare 42, ordered_hung named 42, ?whole, ?refused⟩
  case whole =>
    exact ((ofStored_stored_eq_ok_iff (ordered_hung bare 42)).2.1 _).mpr ⟨by decide +kernel, rfl⟩
  case refused =>
    exact (ofStored_stored_eq_ok_iff (ordered_hung named 42)).2.2 (by decide +kernel)

/-- The text written for a record that was read from any text is its normal form: it is read as the
very same record, writing what is read gives the same text again, and a repository that stores the
record gives it back. -/
theorem ofStored_stored_of_ofStored {text : String} {record : NodeRecord}
    (read : ofStored text = .ok record) :
    ofStored record.stored = .ok record ∧
    (∀ again, ofStored record.stored = .ok again → again = record ∧ again.stored = record.stored) ∧
    ∀ (repository saved : Repository) (location : String),
      repository.save location record = .ok saved →
        saved.database.readBody location = .ok (some record.stored) ∧
          saved.load location = .ok (some record) := by
  have ordered := ordered_of_ofStored read
  have fits := nesting_le_of_ofStored read
  have whole : ofStored record.stored = .ok record := by rw [ofStored_stored ordered, if_pos fits]
  refine ⟨whole, ?again, ?stored⟩
  case again =>
    intro again readAgain
    have same : record = again := Except.ok.inj (whole.symm.trans readAgain)
    exact ⟨same.symm, congrArg stored same.symm⟩
  case stored =>
    intro repository saved location done
    obtain ⟨writable, rfl⟩ := Repository.writable_of_save done
    have body : (repository.put location record).database.readBody location =
        .ok (some record.stored) := by
      rw [Repository.readBody_put writable.table, if_pos rfl]
    refine ⟨body, ?_⟩
    rw [Repository.load_of_readBody writable.visible ordered body, if_pos fits]

/-- A text with members in another order, one of them unknown, a slot given twice, a node in the form
of a list, and an identifier in braces. -/
def lenientText : String :=
  " \x7b\"children\":\x7b\"s\":[],\"s\":[[\"\x7b00000000-0000-0000-0000-00000000000A\x7d\"" ++
    ", \"le\\u0061f\", \x7b\"k\":\"1\",\"k\":\"2\"\x7d]]\x7d ,\"more\":[[\"\\uD800\"]]," ++
    "\"type\":\"top\",\"id\":\"00000000000000000000000000000001\"\x7d"

/-- The record that it is read as. -/
def lenientRecord : NodeRecord :=
  ⟨Uuid.ofNat 1, "top", Table.empty,
    [("s", [⟨Uuid.ofNat 10, "leaf", Table.empty.insert "k" "2", []⟩])]⟩

/-- The text is no normal form, but that of its record is. -/
theorem ofStored_stored_lenient :
    ofStored lenientText = .ok lenientRecord ∧ lenientRecord.stored ≠ lenientText ∧
      ofStored lenientRecord.stored = .ok lenientRecord ∧
      (∀ again, ofStored lenientRecord.stored = .ok again →
        again = lenientRecord ∧ again.stored = lenientRecord.stored) ∧
      ∀ (repository saved : Repository) (location : String),
        repository.save location lenientRecord = .ok saved →
          saved.database.readBody location = .ok (some lenientRecord.stored) ∧
            saved.load location = .ok (some lenientRecord) := by
  have read : ofStored lenientText = .ok lenientRecord := by decide +kernel
  exact ⟨read, by decide +kernel, ofStored_stored_of_ofStored read⟩

end NodeRecord

end LevelGraph
