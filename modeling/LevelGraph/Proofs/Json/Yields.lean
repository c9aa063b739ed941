import LevelGraph.Json.Reader

/-!
# What readers yield

Properties of values read, whatever the text is: what holds of every item read holds of
the items of a list and of the values of a map, and what every field keeps of a draft holds
of the structure. And whatever opens a bracket is read only where there is room for one.
-/

namespace LevelGraph.Json

/-- Whatever the reader takes off a text has the property. -/
def Yields {α : Type} (reader : Reader α) (property : α → Prop) : Prop :=
  ∀ ⦃text value rest⦄, reader text = .ok (value, rest) → property value

/-- Nothing is asked of the value. -/
theorem yields_any {α : Type} (reader : Reader α) : Yields reader fun _ => True :=
  fun _ _ _ _ => trivial

/-- A value with the property is put into a draft. -/
theorem Yields.into {σ α : Type} {reader : Reader α} {property : α → Prop}
    (yields : Yields reader property) {put : α → σ} {drafted : σ → Prop}
    (carried : ∀ value, property value → drafted (put value)) :
    Yields (readInto reader put) drafted := by
  intro text value rest done
  unfold readInto at done
  split at done
  · cases done
  · next read =>
    cases done
    exact carried _ (yields read)

/-- Properties that are ensured one by one are ensured together. -/
theorem Yields.and {α : Type} {reader : Reader α} {property other : α → Prop}
    (yields : Yields reader property) (yieldsOther : Yields reader other) :
    Yields reader fun value => property value ∧ other value :=
  fun _ _ _ done => ⟨yields done, yieldsOther done⟩

/-- Every item of a list has the property. -/
theorem yields_readList {α : Type} {item : Reader α} {property : α → Prop}
    (yields : Yields item property) (room : Nat) :
    Yields (readList room item) fun items => ∀ value ∈ items, property value := by
  have inside (steps : Nat) : ∀ first, Yields (readItems item steps first)
      fun items => ∀ value ∈ items, property value := by
    induction steps with
    | zero =>
      intro first text items rest done
      cases done
    | succ steps inductionHypothesis =>
      intro first text items rest done
      rw [readItems] at done
      split at done
      · cases done
      · cases done
        exact fun _ listed => nomatch listed
      · split at done
        · cases done
        · next read =>
          split at done
          · cases done
          · next later =>
            cases done
            exact List.forall_mem_cons.mpr ⟨yields read, inductionHypothesis false later⟩
  intro text items rest done
  unfold readList at done
  split at done
  · split at done
    · cases done
    · exact inside _ _ done
  · cases done

/-- Every value of a map has the property. -/
theorem yields_readMap {α : Type} {value : Reader α} {property : α → Prop}
    (yields : Yields value property) (room : Nat) :
    Yields (readMap room value) fun members => ∀ member ∈ members, property member.2 := by
  have inside (steps : Nat) : ∀ first, Yields (readMembers value steps first)
      fun members => ∀ member ∈ members, property member.2 := by
    induction steps with
    | zero =>
      intro first text members rest done
      cases done
    | succ steps inductionHypothesis =>
      intro first text members rest done
      rw [readMembers] at done
      split at done
      · cases done
      · cases done
        exact fun _ listed => nomatch listed
      · split at done
        · cases done
        · split at done
          · cases done
          · next read =>
            split at done
            · cases done
            · next later =>
              cases done
              exact List.forall_mem_cons.mpr ⟨yields read, inductionHypothesis false later⟩
  intro text members rest done
  unfold readMap at done
  split at done
  · split at done
    · cases done
    · exact inside _ _ done
  · cases done

/-- A list is read only where there is room for its bracket. -/
theorem room_of_readList {α : Type} (item : Reader α) (room : Nat) :
    Yields (readList room item) fun _ => 0 < room := by
  intro text items rest done
  unfold readList at done
  split at done
  · split at done
    · cases done
    · next roomy => exact Nat.pos_of_ne_zero roomy
  · cases done

/-- A map is read only where there is room for its bracket. -/
theorem room_of_readMap {α : Type} (value : Reader α) (room : Nat) :
    Yields (readMap room value) fun _ => 0 < room := by
  intro text members rest done
  unfold readMap at done
  split at done
  · split at done
    · cases done
    · next roomy => exact Nat.pos_of_ne_zero roomy
  · cases done

section Structure

variable {σ : Type} {fields : List (Field σ)} {drafted : σ → Prop}

/-- What every field keeps of a draft is kept by the members of an object. -/
theorem yields_readNamedFields
    (kept : ∀ field ∈ fields, ∀ draft, drafted draft → Yields (field.read draft) drafted)
    (strict : Bool) (steps : Nat) (first : Bool) {draft : σ} (held : drafted draft) :
    Yields (readNamedFields strict fields steps first draft) drafted := by
  induction steps generalizing first draft with
  | zero =>
    intro text last rest done
    cases done
  | succ steps inductionHypothesis =>
    intro text last rest done
    rw [readNamedFields] at done
    split at done
    · cases done
    · cases done
      exact held
    · split at done
      · split at done
        · cases done
        · split at done
          · cases done
          · split at done
            · cases done
            · exact inductionHypothesis false held done
      · next field found =>
        split at done
        · cases done
        · split at done
          · cases done
          · split at done
            · cases done
            · next read =>
              exact inductionHypothesis false
                (kept field (List.mem_of_find?_eq_some found) _ held read) done

/-- What every field keeps of a draft is kept by the items of a list. -/
theorem yields_readListedFields
    (kept : ∀ field ∈ fields, ∀ draft, drafted draft → Yields (field.read draft) drafted)
    (first : Bool) {draft : σ} (held : drafted draft) :
    Yields (readListedFields fields first draft) drafted := by
  induction fields generalizing first draft with
  | nil =>
    intro text last rest done
    rw [readListedFields] at done
    split at done
    · cases done
    · cases done
      exact held
  | cons field fields inductionHypothesis =>
    intro text last rest done
    rw [readListedFields] at done
    split at done
    · cases done
    · split at done
      · cases done
      · cases done
        exact held
    · split at done
      · cases done
      · next read =>
        exact inductionHypothesis (fun later listed => kept later (List.mem_cons_of_mem _ listed))
          false (kept field List.mem_cons_self _ held read) done

/-- A structure completed from drafts that every field keeps has what the drafts ensure. -/
theorem yields_readStruct {α : Type} {complete? : σ → Option α} {property : α → Prop} {blank : σ}
    (kept : ∀ field ∈ fields, ∀ draft, drafted draft → Yields (field.read draft) drafted)
    (held : drafted blank)
    (completed : ∀ draft value, drafted draft → complete? draft = some value → property value)
    (room : Nat) (strict : Bool) :
    Yields (readStruct room strict fields blank complete?) property := by
  intro text value rest done
  unfold readStruct at done
  dsimp only at done
  split at done
  · split at done
    · cases done
    · split at done
      · cases done
      · next read =>
        split at done
        · next complete =>
          cases done
          exact completed _ _ (yields_readListedFields kept true held read) complete
        · cases done
  · split at done
    · cases done
    · split at done
      · cases done
      · next read =>
        split at done
        · next complete =>
          cases done
          exact completed _ _ (yields_readNamedFields kept strict _ true held read) complete
        · cases done
  · cases done

/-- A structure is read only where there is room for its bracket. -/
theorem room_of_readStruct {α : Type} {complete? : σ → Option α} {blank : σ} (room : Nat)
    (strict : Bool) : Yields (readStruct room strict fields blank complete?) fun _ => 0 < room := by
  intro text value rest done
  unfold readStruct at done
  dsimp only at done
  split at done
  · split at done
    · cases done
    · next roomy => exact Nat.pos_of_ne_zero roomy
  · split at done
    · cases done
    · next roomy => exact Nat.pos_of_ne_zero roomy
  · cases done

end Structure

/-- A whole text yields what the reader yields. -/
theorem Yields.read {α : Type} {reader : Reader α} {property : α → Prop}
    (yields : Yields reader property) {text : String} {value : α}
    (done : Json.read reader text = .ok value) : property value := by
  unfold Json.read at done
  split at done
  · cases done
  · next read =>
    split at done
    · cases done
      exact yields read
    · cases done

end LevelGraph.Json
