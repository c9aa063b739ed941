import LevelGraph.Proofs.Json.Quoted

/-!
# Written values read back

A reader *reads back* a text when it takes exactly that text off the front of
whatever follows it and yields the value written. Room for brackets is the only
thing that can be wanting: where the text does not fit, the reader finds it
malformed, and nothing else can go wrong. The rule passes from the parts of a value to
lists, to objects used as maps and to structures.
-/

namespace LevelGraph.Json

/-- Reading a written text gives the value written and leaves the rest, exactly where
the text fits into the room there is. -/
structure ReadsBack {α : Type} (reader : Reader α) (text : List Char) (value : α)
    (fits : Prop) : Prop where
  /-- A text that fits is read whole. -/
  read : fits → ∀ rest, reader (text ++ rest) = .ok (value, rest)
  /-- A text that does not fit nests too deep. -/
  refused : ¬ fits → ∀ rest, reader (text ++ rest) = .error .malformed

/-- The same room in other words. -/
theorem ReadsBack.of_iff {α : Type} {reader : Reader α} {text : List Char} {value : α}
    {fits roomy : Prop} (back : ReadsBack reader text value fits) (same : roomy ↔ fits) :
    ReadsBack reader text value roomy :=
  ⟨fun held => back.read (same.mp held), fun lost => back.refused fun held => lost (same.mpr held)⟩

/-- A value put into a draft is read back as the draft that holds it. -/
theorem ReadsBack.into {σ α : Type} {reader : Reader α} {text : List Char} {value : α}
    {fits : Prop} (back : ReadsBack reader text value fits) (put : α → σ) :
    ReadsBack (readInto reader put) text (put value) fits where
  read held rest := by simp only [readInto, back.read held]
  refused lost rest := by simp only [readInto, back.refused lost]

/-- A string always fits. -/
theorem readsBack_quote (text : String) : ReadsBack readString (quote text) text True :=
  ⟨fun _ rest => readString_quote text rest, fun lost => absurd trivial lost⟩

/-- A quoted word is read back as what it spells. -/
theorem readsBack_spelled {α : Type} {spelled? : String → Option α} {chars : List Char} {value : α}
    (spelled : spelled? (String.ofList chars) = some value) :
    ReadsBack (readSpelled spelled?) (quoteThen chars []) value True where
  read _ rest := by simp only [readSpelled, readString_quoteThen, spelled]
  refused lost := absurd trivial lost

/-- A truth value always fits. -/
theorem readsBack_writeBool (value : Bool) : ReadsBack readBool (writeBool value) value True where
  read _ rest := by cases value <;> rfl
  refused lost := absurd trivial lost

/-- A quoted text shows its opening quote. -/
theorem quote_append (text : String) (rest : List Char) :
    quote text ++ rest = '"' :: (text.toList.flatMap escapeChar ++ '"' :: rest) := by
  simp only [quote, quoteThen, List.cons_append, List.append_assoc, List.nil_append]

/-- Nothing is skipped in front of a quote. -/
theorem skipSpace_quote (behind : List Char) : skipSpace ('"' :: behind) = '"' :: behind := rfl

/-- A string that may be absent is told from `null` by its quote. -/
theorem readsBack_writeOption (text : Option String) :
    ReadsBack (readOption readString) (writeOption quote text) text True where
  read _ rest := by
    cases text with
    | none => rfl
    | some held =>
      have back := readString_quote held rest
      rw [writeOption]
      rw [quote_append] at back ⊢
      simp [readOption, skipSpace_quote, back]
  refused lost := absurd trivial lost

/-- A quoted word of a vocabulary is read back as what it spells, without a bracket. -/
theorem readsBack_choice {α : Type} {spelled? : String → Option α} {word : String} {value : α}
    (spelled : spelled? word = some value) (room : Nat) :
    ReadsBack (readChoice room spelled?) (quote word) value True where
  read _ rest := by
    have back := readString_quote word rest
    rw [quote_append] at back ⊢
    simp only [readChoice, skipSpace_quote, readSpelled, back, spelled]
  refused lost := absurd trivial lost

/-- A text begins a value: its first character is neither space nor a closing bracket. -/
def Begins (text : List Char) : Prop :=
  ∃ char rest, text = char :: rest ∧ isSpace char = false ∧ char ≠ ']'

/-- Nothing is skipped in front of a value. -/
theorem Begins.skipSpace {text : List Char} (begins : Begins text) (rest : List Char) :
    skipSpace (text ++ rest) = text ++ rest := by
  obtain ⟨char, behind, rfl, visible, _⟩ := begins
  simp [Json.skipSpace, visible]

/-- An object begins a value. -/
theorem begins_writeObject (members : List (String × List Char)) : Begins (writeObject members) :=
  ⟨'\x7b', _, rfl, by decide, by decide⟩

/-- So does a string. -/
theorem begins_quote (text : String) : Begins (quote text) := ⟨'"', _, rfl, by decide, by decide⟩

/-- What stands inside a bracket, from the first item on or from a later one: every
item but the first has a comma in front of it. -/
def separated (first : Bool) : List (List Char) → List Char
  | [] => []
  | item :: rest => (if first then item else ',' :: item) ++ separated false rest

/-- Items with commas between them. -/
theorem commaSeparated_eq (items : List (List Char)) : commaSeparated items = separated true items := by
  have later (items : List (List Char)) (item : List Char) :
      commaSeparated (item :: items) = item ++ separated false items := by
    induction items generalizing item with
    | nil => simp [commaSeparated, separated]
    | cons next items inductionHypothesis =>
      simp [commaSeparated, separated, inductionHypothesis next]
  cases items with
  | nil => rfl
  | cons item items => exact later items item

/-- A bracket has at least a character for every item. -/
theorem length_le_separated (first : Bool) {items : List (List Char)}
    (filled : ∀ item ∈ items, item ≠ []) : items.length ≤ (separated first items).length := by
  induction items generalizing first with
  | nil => exact Nat.zero_le _
  | cons item items inductionHypothesis =>
    have rest := inductionHypothesis false fun later listed => filled later (List.mem_cons_of_mem _ listed)
    have long : 0 < item.length := List.length_pos_iff.mpr (filled item List.mem_cons_self)
    cases first <;> simp only [separated, List.length_append, List.length_cons, if_true,
      Bool.false_eq_true, if_false] <;> omega

/-- The next item of a list is met behind its comma. -/
theorem nextItem_item (first : Bool) {text : List Char} (begins : Begins text) (rest : List Char) :
    nextItem first ((if first then text else ',' :: text) ++ rest) = .ok (true, text ++ rest) := by
  have skipped := begins.skipSpace rest
  obtain ⟨char, behind, rfl, visible, noEnd⟩ := begins
  simp only [List.cons_append] at skipped
  cases first with
  | true =>
    simp only [if_true, List.cons_append, nextItem, skipped]
  | false =>
    have comma (text : List Char) : Json.skipSpace (',' :: text) = ',' :: text := rfl
    simp only [Bool.false_eq_true, if_false, List.cons_append, nextItem, comma, Char.reduceEq,
      imp_self, if_true, skipped]
    split
    · next same => exact absurd (List.cons.inj same).1 noEnd
    · rfl

/-- The items of a list are read back.

Proof: induction on the items. An item that does not fit stops the reading; otherwise
the rest decides. -/
theorem readItems_separated {α : Type} {item : Reader α} {write : α → List Char} {fits : α → Prop}
    {items : List α} (begins : ∀ value ∈ items, Begins (write value))
    (back : ∀ value ∈ items, ReadsBack item (write value) value (fits value))
    {steps : Nat} (enough : items.length < steps) (first : Bool) (rest : List Char) :
    ((∀ value ∈ items, fits value) →
      readItems item steps first (separated first (items.map write) ++ ']' :: rest) =
        .ok (items, rest)) ∧
    (¬ (∀ value ∈ items, fits value) →
      readItems item steps first (separated first (items.map write) ++ ']' :: rest) =
        .error .malformed) := by
  induction items generalizing steps first with
  | nil =>
    obtain ⟨left, rfl⟩ := Nat.exists_eq_succ_of_ne_zero (Nat.ne_of_gt enough)
    exact ⟨fun _ => rfl, fun lost => absurd (fun _ listed => nomatch listed) lost⟩
  | cons value items inductionHypothesis =>
    obtain ⟨left, rfl⟩ := Nat.exists_eq_succ_of_ne_zero (Nat.ne_of_gt (Nat.zero_lt_of_lt enough))
    obtain ⟨laterRead, laterRefused⟩ := inductionHypothesis
      (fun later listed => begins later (List.mem_cons_of_mem _ listed))
      (fun later listed => back later (List.mem_cons_of_mem _ listed))
      (Nat.lt_of_succ_lt_succ enough) false
    have backHead := back value List.mem_cons_self
    rw [List.map_cons, separated, List.append_assoc, readItems,
      nextItem_item first (begins value List.mem_cons_self)]
    simp only [List.forall_mem_cons]
    by_cases fitsHead : fits value
    · rw [backHead.read fitsHead]
      refine ⟨fun all => ?_, fun lost => ?_⟩
      · simp only [laterRead all.2]
      · simp only [laterRefused fun all => lost ⟨fitsHead, all⟩]
    · rw [backHead.refused fitsHead]
      exact ⟨fun all => absurd all.1 fitsHead, fun _ => rfl⟩

/-- A list of values that read back reads back, if there is room for its bracket. -/
theorem readsBack_writeList {α : Type} {item : Reader α} {write : α → List Char} {fits : α → Prop}
    {items : List α} (begins : ∀ value ∈ items, Begins (write value))
    (back : ∀ value ∈ items, ReadsBack item (write value) value (fits value)) (room : Nat) :
    ReadsBack (readList room item) (writeList (items.map write)) items
      (0 < room ∧ ∀ value ∈ items, fits value) := by
  have unfolded (rest : List Char) : readList room item (writeList (items.map write) ++ rest) =
      if room = 0 then .error .malformed
      else readItems item ((separated true (items.map write) ++ ']' :: rest).length + 1) true
        (separated true (items.map write) ++ ']' :: rest) := by
    simp [readList, writeList, commaSeparated_eq, Json.skipSpace, isSpace]
  have filled : ∀ text ∈ items.map write, text ≠ [] := by
    intro text listed
    obtain ⟨value, held, rfl⟩ := List.mem_map.mp listed
    obtain ⟨char, behind, shape, -⟩ := begins value held
    simp [shape]
  have enough (rest : List Char) :
      items.length < (separated true (items.map write) ++ ']' :: rest).length + 1 := by
    have long := length_le_separated true filled
    rw [List.length_map] at long
    simp only [List.length_append]
    omega
  refine ⟨fun roomy rest => ?_, fun tight rest => ?_⟩
  · rw [unfolded, if_neg (Nat.ne_of_gt roomy.1)]
    exact (readItems_separated begins back (enough rest) true rest).1 roomy.2
  · rw [unfolded]
    split
    · rfl
    · next open_ =>
      exact (readItems_separated begins back (enough rest) true rest).2
        fun all => tight ⟨Nat.pos_of_ne_zero open_, all⟩

/-- The next name of an object is met behind its comma. -/
theorem nextName_member (first : Bool) (name : String) (rest : List Char) :
    nextName first ((if first then quote name else ',' :: quote name) ++ rest) =
      .ok (some name, rest) := by
  have quoted := readQuoted_escaped name.toList rest
  have comma (text : List Char) : skipSpace (',' :: text) = ',' :: text := rfl
  cases first with
  | true => simp [quote, quoteThen, nextName, skipSpace_quote, quoted]
  | false => simp [quote, quoteThen, nextName, comma, skipSpace_quote, quoted]

/-- The first written member stands behind its name and a colon. -/
theorem separated_member (first : Bool) (name : String) (text : List Char)
    (members : List (List Char)) (rest : List Char) :
    separated first (writeMember (name, text) :: members) ++ rest =
      (if first then quote name else ',' :: quote name) ++
        (':' :: (text ++ (separated false members ++ rest))) := by
  cases first <;> simp [separated, writeMember]

/-- A colon is passed over. -/
theorem scanColon_colon (rest : List Char) : scanColon (':' :: rest) = .ok rest := rfl

/-- The members of an object are read back.

Proof: induction on the members. A value that does not fit stops the reading;
otherwise the rest decides. -/
theorem readMembers_separated {α : Type} {value : Reader α} {write : α → List Char}
    {fits : α → Prop} {members : List (String × α)}
    (back : ∀ member ∈ members, ReadsBack value (write member.2) member.2 (fits member.2))
    {steps : Nat} (enough : members.length < steps) (first : Bool) (rest : List Char) :
    ((∀ member ∈ members, fits member.2) →
      readMembers value steps first
        (separated first ((members.map fun member => (member.1, write member.2)).map writeMember) ++
          '\x7d' :: rest) = .ok (members, rest)) ∧
    (¬ (∀ member ∈ members, fits member.2) →
      readMembers value steps first
        (separated first ((members.map fun member => (member.1, write member.2)).map writeMember) ++
          '\x7d' :: rest) = .error .malformed) := by
  induction members generalizing steps first with
  | nil =>
    obtain ⟨left, rfl⟩ := Nat.exists_eq_succ_of_ne_zero (Nat.ne_of_gt enough)
    exact ⟨fun _ => rfl, fun lost => absurd (fun _ listed => nomatch listed) lost⟩
  | cons member members inductionHypothesis =>
    obtain ⟨left, rfl⟩ := Nat.exists_eq_succ_of_ne_zero (Nat.ne_of_gt (Nat.zero_lt_of_lt enough))
    obtain ⟨laterRead, laterRefused⟩ := inductionHypothesis
      (fun later listed => back later (List.mem_cons_of_mem _ listed))
      (Nat.lt_of_succ_lt_succ enough) false
    have backHead := back member List.mem_cons_self
    simp only [List.map_cons, List.forall_mem_cons]
    rw [separated_member, readMembers, nextName_member]
    simp only [scanColon_colon]
    by_cases fitsHead : fits member.2
    · rw [backHead.read fitsHead]
      refine ⟨fun all => ?_, fun lost => ?_⟩
      · simp only [laterRead all.2]
      · simp only [laterRefused fun all => lost ⟨fitsHead, all⟩]
    · rw [backHead.refused fitsHead]
      exact ⟨fun all => absurd all.1 fitsHead, fun _ => rfl⟩

/-- An object has at least a character for every member. -/
theorem length_lt_object (members : List (String × List Char)) (rest : List Char) :
    members.length < (separated true (members.map writeMember) ++ '\x7d' :: rest).length + 1 := by
  have filled : ∀ text ∈ members.map writeMember, text ≠ [] := by
    intro text listed
    obtain ⟨member, -, rfl⟩ := List.mem_map.mp listed
    simp [writeMember, quote, quoteThen]
  have long := length_le_separated true filled
  rw [List.length_map] at long
  simp only [List.length_append]
  omega

/-- A map whose values read back reads back, if there is room for its bracket. -/
theorem readsBack_writeObject {α : Type} {value : Reader α} (write : α → List Char)
    (fits : α → Prop) {members : List (String × α)}
    (back : ∀ member ∈ members, ReadsBack value (write member.2) member.2 (fits member.2))
    (room : Nat) :
    ReadsBack (readMap room value)
      (writeObject (members.map fun member => (member.1, write member.2))) members
      (0 < room ∧ ∀ member ∈ members, fits member.2) := by
  have unfolded (members : List (String × List Char)) (rest : List Char) :
      readMap room value (writeObject members ++ rest) =
      if room = 0 then .error .malformed
      else readMembers value
        ((separated true (members.map writeMember) ++ '\x7d' :: rest).length + 1) true
        (separated true (members.map writeMember) ++ '\x7d' :: rest) := by
    simp [readMap, writeObject, commaSeparated_eq, Json.skipSpace, isSpace]
  have enough (rest : List Char) := length_lt_object
    (members.map fun member => (member.1, write member.2)) rest
  rw [List.length_map] at enough
  refine ⟨fun roomy rest => ?_, fun tight rest => ?_⟩
  · rw [unfolded, if_neg (Nat.ne_of_gt roomy.1)]
    exact (readMembers_separated back (enough rest) true rest).1 roomy.2
  · rw [unfolded]
    split
    · rfl
    · next open_ =>
      exact (readMembers_separated back (enough rest) true rest).2
        fun all => tight ⟨Nat.pos_of_ne_zero open_, all⟩

/-- Written members that take a draft from one state to another, each one the text of a
field that the draft lacks. -/
inductive Fills {σ : Type} (fields : List (Field σ)) :
    σ → List (String × List Char) → Prop → σ → Prop
  /-- Nothing is written. -/
  | nothing (draft : σ) : Fills fields draft [] True draft
  /-- A field is written, then more. -/
  | field {draft next last : σ} {name : String} {text : List Char}
      {members : List (String × List Char)} {fits fitsLater : Prop} {field : Field σ}
      (found : fields.find? (fun field => field.name == name) = some field)
      (free : field.taken draft = false)
      (back : ReadsBack (field.read draft) text next fits)
      (later : Fills fields next members fitsLater last) :
      Fills fields draft ((name, text) :: members) (fits ∧ fitsLater) last

/-- The same room in other words. -/
theorem Fills.of_iff {σ : Type} {fields : List (Field σ)} {draft last : σ}
    {members : List (String × List Char)} {fits roomy : Prop}
    (fills : Fills fields draft members fits last) (same : roomy ↔ fits) :
    Fills fields draft members roomy last :=
  (propext same) ▸ fills

/-- A field is written whose text always fits, then more. -/
theorem Fills.plain {σ : Type} {fields : List (Field σ)} {draft next last : σ} {name : String}
    {text : List Char} {members : List (String × List Char)} {fits : Prop} {field : Field σ}
    (found : fields.find? (fun field => field.name == name) = some field)
    (free : field.taken draft = false) (back : ReadsBack (field.read draft) text next True)
    (later : Fills fields next members fits last) :
    Fills fields draft ((name, text) :: members) fits last :=
  (Fills.field found free back later).of_iff (iff_of_eq (true_and fits).symm)

/-- The members of a structure fill its draft.

Proof: induction on the members written. -/
theorem readNamedFields_separated {σ : Type} {fields : List (Field σ)} {draft last : σ}
    {members : List (String × List Char)} {fits : Prop} (fills : Fills fields draft members fits last)
    (strict : Bool) {steps : Nat} (enough : members.length < steps) (first : Bool)
    (rest : List Char) :
    (fits → readNamedFields strict fields steps first draft
        (separated first (members.map writeMember) ++ '\x7d' :: rest) = .ok (last, rest)) ∧
    (¬ fits → readNamedFields strict fields steps first draft
        (separated first (members.map writeMember) ++ '\x7d' :: rest) = .error .malformed) := by
  induction fills generalizing steps first with
  | nothing draft =>
    obtain ⟨left, rfl⟩ := Nat.exists_eq_succ_of_ne_zero (Nat.ne_of_gt enough)
    exact ⟨fun _ => rfl, fun lost => absurd trivial lost⟩
  | @field draft next last name text members fits fitsLater field found free back later
      inductionHypothesis =>
    obtain ⟨left, rfl⟩ := Nat.exists_eq_succ_of_ne_zero (Nat.ne_of_gt (Nat.zero_lt_of_lt enough))
    obtain ⟨laterRead, laterRefused⟩ := inductionHypothesis (Nat.lt_of_succ_lt_succ enough) false
    rw [List.map_cons, separated_member, readNamedFields, nextName_member]
    simp only [found, free, Bool.false_eq_true, if_false, scanColon_colon]
    by_cases fitsHead : fits
    · rw [back.read fitsHead]
      refine ⟨fun all => ?_, fun lost => ?_⟩
      · simp only [laterRead all.2]
      · simp only [laterRefused fun all => lost ⟨fitsHead, all⟩]
    · rw [back.refused fitsHead]
      exact ⟨fun all => absurd all.1 fitsHead, fun _ => rfl⟩

/-- A structure whose written members fill its draft reads back, if there is room for
its bracket. -/
theorem readsBack_struct {σ α : Type} {fields : List (Field σ)} {blank last : σ}
    {members : List (String × List Char)} {fits : Prop} (fills : Fills fields blank members fits last)
    {complete? : σ → Option α} {value : α} (complete : complete? last = some value)
    (room : Nat) (strict : Bool) :
    ReadsBack (readStruct room strict fields blank complete?) (writeObject members) value
      (0 < room ∧ fits) := by
  have opened (rest : List Char) : skipSpace (writeObject members ++ rest) =
      '\x7b' :: (separated true (members.map writeMember) ++ '\x7d' :: rest) := by
    simp [writeObject, commaSeparated_eq, Json.skipSpace, isSpace]
  have enough (rest : List Char) := length_lt_object members rest
  refine ⟨fun roomy rest => ?_, fun tight rest => ?_⟩
  · simp only [readStruct, opened, if_neg (Nat.ne_of_gt roomy.1),
      (readNamedFields_separated fills strict (enough rest) true rest).1 roomy.2, complete]
  · simp only [readStruct, opened]
    split
    · rfl
    · next open_ =>
      rw [(readNamedFields_separated fills strict (enough rest) true rest).2
        fun held => tight ⟨Nat.pos_of_ne_zero open_, held⟩]

/-- A whole text is read where the reader reads it back. -/
theorem read_of_readsBack {α : Type} {reader : Reader α} {text : List Char} {value : α}
    {fits : Prop} (back : ReadsBack reader text value fits) :
    (fits → read reader (String.ofList text) = .ok value) ∧
      (¬ fits → read reader (String.ofList text) = .error .malformed) := by
  have nothingBehind := List.append_nil text
  refine ⟨fun held => ?_, fun lost => ?_⟩
  · have done := back.read held []
    rw [nothingBehind] at done
    simp [read, done, Json.skipSpace]
  · have failed := back.refused lost []
    rw [nothingBehind] at failed
    simp [read, failed]

end LevelGraph.Json
