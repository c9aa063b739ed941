import LevelGraph.Proofs.Json.ReadBack
import LevelGraph.Schema.DeclarationText
import Mathlib.Control.Monad.Basic

/-!
# The normal form of type declarations

A collection is written with every member of every structure in it, the strings escaped, and without
a space. What is written is read back, whatever the strings say and however many types there are: no
more than five brackets are ever open at once, and the reader has room for 127.

So texts that are read as a collection, with members in another order, with unknown ones, with defaults
left out or with lists for objects, share one text that is written for it.
-/

namespace LevelGraph

/-- The three members of a slot fill an empty draft one after the other. -/
theorem ChildDecl.readsBack_write (decl : ChildDecl) (room : Nat) :
    Json.ReadsBack (reader room) decl.write decl (0 < room) := by
  have fills : Json.Fills fields ⟨none, none, none⟩
      [("name", Json.quote decl.name), ("type_name", Json.quote decl.typeName),
        ("is_list", Json.writeBool decl.isList)]
      True ⟨some decl.name, some decl.typeName, some decl.isList⟩ := by
    refine .plain rfl rfl ((Json.readsBack_quote decl.name).into _) ?_
    refine .plain rfl rfl ((Json.readsBack_quote decl.typeName).into _) ?_
    exact .plain rfl rfl ((Json.readsBack_writeBool decl.isList).into _) (.nothing _)
  have complete : Draft.complete? ⟨some decl.name, some decl.typeName, some decl.isList⟩ = some decl :=
    rfl
  exact (Json.readsBack_struct fills complete room false).of_iff (iff_of_eq (and_true _).symm)

/-- The bracket of a type has those of its attributes and of its slots in it, and the latter one the
brackets of the slots. -/
theorem TypeDecl.readsBack_write (decl : TypeDecl) (room : Nat) :
    Json.ReadsBack (reader room) decl.write decl
      (0 < room ∧ 0 < room - 1 ∧ ∀ child ∈ decl.children, 0 < room - 1 - 1) := by
  have attributes := Json.readsBack_writeList (fun name _ => Json.begins_quote name)
    (fun name (_ : name ∈ decl.attributes) => Json.readsBack_quote name) (room - 1)
  have children := Json.readsBack_writeList (fun (child : ChildDecl) _ => Json.begins_writeObject _)
    (fun child (_ : child ∈ decl.children) => child.readsBack_write (room - 1 - 1)) (room - 1)
  have fills : Json.Fills (fields (room - 1)) ⟨none, none, none, none⟩
      [("name", Json.quote decl.name), ("base", Json.writeOption Json.quote decl.base),
        ("attributes", Json.writeList (decl.attributes.map Json.quote)),
        ("children", Json.writeList (decl.children.map ChildDecl.write))]
      ((0 < room - 1 ∧ ∀ name ∈ decl.attributes, True) ∧
        (0 < room - 1 ∧ ∀ child ∈ decl.children, 0 < room - 1 - 1) ∧ True)
      ⟨some decl.name, some decl.base, some decl.attributes, some decl.children⟩ := by
    refine .plain rfl rfl ((Json.readsBack_quote decl.name).into _) ?_
    refine .plain rfl rfl ((Json.readsBack_writeOption decl.base).into _) ?_
    refine .field rfl rfl (attributes.into _) ?_
    exact .field rfl rfl (children.into _) (.nothing _)
  have complete : Draft.complete?
      ⟨some decl.name, some decl.base, some decl.attributes, some decl.children⟩ = some decl := rfl
  refine (Json.readsBack_struct fills complete room false).of_iff ?_
  simp only [and_true, implies_true, and_self_left]

namespace TypeCollection

/-- The bracket of a collection has that of its types in it, and this one the brackets of the types. -/
theorem readsBack_write (collection : TypeCollection) (room : Nat) :
    Json.ReadsBack (reader room) collection.write collection
      (0 < room ∧ 0 < room - 1 ∧ ∀ decl ∈ collection.types, 0 < room - 1 - 1 ∧
        0 < room - 1 - 1 - 1 ∧ ∀ child ∈ decl.children, 0 < room - 1 - 1 - 1 - 1) := by
  have types := Json.readsBack_writeList (fun (decl : TypeDecl) _ => Json.begins_writeObject _)
    (fun decl (_ : decl ∈ collection.types) => decl.readsBack_write (room - 1 - 1)) (room - 1)
  have fills : Json.Fills (fields (room - 1)) ⟨none, none⟩
      [("target_namespace", Json.quote collection.targetNamespace),
        ("types", Json.writeList (collection.types.map TypeDecl.write))]
      ((0 < room - 1 ∧ ∀ decl ∈ collection.types, 0 < room - 1 - 1 ∧
        0 < room - 1 - 1 - 1 ∧ ∀ child ∈ decl.children, 0 < room - 1 - 1 - 1 - 1) ∧ True)
      ⟨some collection.targetNamespace, some collection.types⟩ := by
    refine .plain rfl rfl ((Json.readsBack_quote collection.targetNamespace).into _) ?_
    exact .field rfl rfl (types.into _) (.nothing _)
  have complete : Draft.complete? ⟨some collection.targetNamespace, some collection.types⟩ =
    some collection := rfl
  refine (Json.readsBack_struct fills complete room false).of_iff ?_
  rw [and_true]

/-- Whatever a collection says, its text holds it: five brackets are open at most. -/
theorem ofText_text (collection : TypeCollection) : ofText collection.text = .ok collection := by
  apply (Json.read_of_readsBack (collection.readsBack_write Json.maxDepth)).1
  exact ⟨by decide, by decide, fun _ _ => ⟨by decide, by decide, fun _ _ => by decide⟩⟩

/-- No two collections share a text. -/
theorem text_inj {first second : TypeCollection} : first.text = second.text ↔ first = second := by
  constructor
  · intro same
    have readFirst := ofText_text first
    rw [same, ofText_text second] at readFirst
    exact (Except.ok.inj readFirst).symm
  · exact congrArg text

/-- The text of any collection is read as that collection. And whatever text a collection is read from, its
own text is the normal form: it is read as the collection again, and what is read from it has the same
text. -/
theorem ofText_text_of_ofText :
    (∀ collection : TypeCollection, ofText collection.text = .ok collection) ∧
    ∀ (text : String) (collection : TypeCollection), ofText text = .ok collection →
      ofText collection.text = .ok collection ∧
      ∀ again, ofText collection.text = .ok again → again = collection ∧ again.text = collection.text := by
  refine ⟨ofText_text, fun text collection _ => ⟨ofText_text collection, fun again read => ?_⟩⟩
  rw [ofText_text collection] at read
  have same := (Except.ok.inj read).symm
  exact ⟨same, text_inj.mpr same⟩

/-- A collection, a slot and a type in the form of lists, and a type and a slot with their members in
another order, defaults left out, and an unknown member with half a character and a number beyond all
bounds in it. -/
def lenientText : String :=
  " [\"\",[\x7b\"more\":[[\"\\uDC00\"],-1e999],\"children\":[[\"s\",\"leaf\",true]," ++
    "\x7b\"type_name\":\"leaf\",\"name\":\"t\"\x7d], \"name\":\"top\"\x7d," ++
    "[\"le\\u0061f\",\"\",[\"\\\"\\u0000\"]]]]"

/-- The collection that it is read as. -/
def lenient : TypeCollection :=
  ⟨"", [⟨"top", none, [], [⟨"s", "leaf", true⟩, ⟨"t", "leaf", false⟩]⟩,
    ⟨"leaf", some "", ["\"\x00"], []⟩]⟩

/-- The text is no normal form, but that of its collection is. -/
theorem ofText_text_lenient :
    ofText lenientText = .ok lenient ∧ lenient.text ≠ lenientText ∧
      ofText lenient.text = .ok lenient ∧
      ∀ again, ofText lenient.text = .ok again → again = lenient ∧ again.text = lenient.text := by
  have read : ofText lenientText = .ok lenient := by decide +kernel
  exact ⟨read, by decide +kernel, ofText_text_of_ofText.2 lenientText lenient read⟩

end TypeCollection

end LevelGraph
