import LevelGraph.Editor.Collection
import LevelGraph.Schema.Basic

/-!
# The registry of property editors

A descriptor says how a child slot is shown to a person and which editor, if any, works
on it. Descriptors are registered for a type and one of its slots, own or inherited, at
most once each. A look-up for a type takes the descriptor of the nearest type in its
ancestry that has one for the slot, so a derived type may replace what it inherits.
-/

namespace LevelGraph

/-- How a child slot is shown and edited. -/
structure Descriptor where
  /-- The name shown. -/
  displayName : String
  /-- The slot. -/
  slot : String
  /-- The group under which it is shown. -/
  category : Option String
  /-- What the slot is for. -/
  description : String
  /-- Whether it may only be looked at. -/
  readOnly : Bool
  /-- The editor of its collection. -/
  editor : Option CollectionEditor
  deriving DecidableEq

/-- A descriptor without category and editor, open to changes. -/
def Descriptor.plain (displayName slot description : String) : Descriptor :=
  ⟨displayName, slot, none, description, false, none⟩

/-- A slot of a type. -/
structure SlotKey where
  /-- The type. -/
  owner : TypeId
  /-- The slot. -/
  slot : String
  deriving DecidableEq

namespace SlotKey

/-- Slots are ordered by type, those of one type by name. -/
def before (first second : SlotKey) : Bool :=
  KeyOrder.before first.owner second.owner ||
    (decide (first.owner = second.owner) && KeyOrder.before first.slot second.slot)

/-- Two keys of which neither comes before the other have one owner. -/
theorem owner_eq_of_not_before {first second : SlotKey} (notFirst : before first second = false)
    (notSecond : before second first = false) : first.owner = second.owner := by
  simp only [before, Bool.or_eq_false_iff] at notFirst notSecond
  exact KeyOrder.before_connected notFirst.1 notSecond.1

instance : KeyOrder SlotKey where
  before := before
  before_irrefl key := by simp [before, KeyOrder.before_irrefl]
  before_trans := by
    rintro ⟨firstOwner, firstSlot⟩ ⟨secondOwner, secondSlot⟩ ⟨thirdOwner, thirdSlot⟩ earlier later
    simp only [before, Bool.or_eq_true, Bool.and_eq_true, decide_eq_true_eq] at *
    rcases earlier with earlier | ⟨rfl, earlier⟩
    · rcases later with later | ⟨rfl, _⟩
      · exact Or.inl (KeyOrder.before_trans earlier later)
      · exact Or.inl earlier
    · rcases later with later | ⟨rfl, later⟩
      · exact Or.inl later
      · exact Or.inr ⟨rfl, KeyOrder.before_trans earlier later⟩
  before_connected := by
    intro first second notFirst notSecond
    have sameOwner := owner_eq_of_not_before notFirst notSecond
    obtain ⟨firstOwner, firstSlot⟩ := first
    obtain ⟨secondOwner, secondSlot⟩ := second
    subst sameOwner
    simp only [before, KeyOrder.before_irrefl, decide_true, Bool.true_and, Bool.false_or]
      at notFirst notSecond
    exact congrArg (SlotKey.mk firstOwner) (KeyOrder.before_connected notFirst notSecond)

end SlotKey

/-- Why a descriptor is not registered. -/
inductive RegistryError where
  /-- The type has no such slot. -/
  | unknownChild (owner slot : String)
  /-- The slot has a descriptor for this type already. -/
  | duplicateProperty (owner slot : String)
  deriving DecidableEq

/-- What is wrong, in words. -/
def RegistryError.message : RegistryError → String
  | .unknownChild owner slot => "type `" ++ owner ++ "` has no child slot `" ++ slot ++ "`"
  | .duplicateProperty owner slot => "property already registered: " ++ owner ++ "." ++ slot

/-- The registered descriptors. -/
structure Registry where
  /-- The descriptor of each slot that has one. -/
  entries : Table SlotKey Descriptor

namespace Registry

/-- Nothing is registered. -/
def empty : Registry := ⟨Table.empty⟩

/-- The number of descriptors. -/
def size (registry : Registry) : Nat := registry.entries.size

/-- Whether nothing is registered. -/
def isEmpty (registry : Registry) : Bool := registry.entries.isEmpty

/-- The descriptor registered for exactly this type. -/
def get? (registry : Registry) (owner : TypeId) (slot : String) : Option Descriptor :=
  registry.entries.find? ⟨owner, slot⟩

/-- Register a descriptor for a type that has its slot. -/
def register (registry : Registry) (schema : Schema) (owner : TypeId) (descriptor : Descriptor) :
    Except RegistryError Registry :=
  match schema.childInfo? owner descriptor.slot with
  | none => .error (.unknownChild (schema.typeName owner) descriptor.slot)
  | some _ =>
    match registry.get? owner descriptor.slot with
    | some _ => .error (.duplicateProperty (schema.typeName owner) descriptor.slot)
    | none => .ok ⟨registry.entries.insert ⟨owner, descriptor.slot⟩ descriptor⟩

/-- The descriptor for a type: the one of the nearest type in its ancestry. -/
def descriptorFor? (registry : Registry) (schema : Schema) (type : TypeId) (slot : String) :
    Option Descriptor :=
  (schema.ancestry type).findSome? fun owner => registry.get? owner slot

/-- The descriptors registered for exactly this type, in ascending order of slot. -/
def ownDescriptors (registry : Registry) (owner : TypeId) : List Descriptor :=
  registry.entries.entries.filterMap fun entry =>
    if entry.1.owner = owner then some entry.2 else none

end Registry

end LevelGraph
