import Mathlib.Data.String.Basic

/-!
# The order of bytes

Texts are ordered by their code points, character after character, and a store orders them by their
UTF-8 bytes. The two orders agree: the bytes of a character stand before those of a later one, whatever
follows either, and the same character has the same bytes. Texts with the same bytes are the same.
-/

namespace LevelGraph.Text

/-- The UTF-8 bytes of a text. -/
def utf8 (text : String) : List UInt8 := text.toUTF8.data.toList

/-- They are those of its characters, one after the other. -/
theorem utf8_eq_flatMap (text : String) : utf8 text = text.toList.flatMap String.utf8EncodeChar := by
  have spelled : text = String.ofList text.toList := String.ofList_toList.symm
  conv_lhs => rw [utf8, String.toUTF8_eq_toByteArray, spelled, String.toByteArray_ofList]
  rw [List.utf8Encode, List.data_toByteArray]

/-- A text is known by its bytes. -/
theorem utf8_inj {first second : String} : utf8 first = utf8 second ↔ first = second := by
  constructor
  · intro same
    exact String.toByteArray_inj.mp (ByteArray.ext (Array.toList_inj.mp same))
  · rintro rfl
    rfl

/-- Bytes that begin differently are ordered by their first ones. -/
theorem ofNat_cons_lt_iff {first second : Nat} {rest later : List UInt8} (small : first < 256)
    (alsoSmall : second < 256) :
    UInt8.ofNat first :: rest < UInt8.ofNat second :: later ↔
      first < second ∨ first = second ∧ rest < later := by
  have same : UInt8.ofNat first = UInt8.ofNat second ↔ first = second := by
    rw [← UInt8.toNat_inj, UInt8.toNat_ofNat_of_lt' small, UInt8.toNat_ofNat_of_lt' alsoSmall]
  rw [List.cons_lt_cons_iff, UInt8.ofNat_lt_iff_lt small alsoSmall, same]

/-- The bytes of a character stand before those of a later one, whatever follows them. -/
theorem utf8EncodeChar_append_lt {first second : Char} (before : first < second)
    (rest later : List UInt8) :
    String.utf8EncodeChar first ++ rest < String.utf8EncodeChar second ++ later := by
  have ordered : first.val.toNat < second.val.toNat := UInt32.lt_iff_toNat_lt.mp before
  have top : second.val.toNat < 0x110000 := by
    rcases second.valid with low | ⟨-, high⟩ <;> omega
  simp only [String.utf8EncodeChar]
  have digits {code : Nat} (inside : code < 0x110000) : code / 64 / 64 = code / 4096 ∧
      code / 4096 / 64 = code / 262144 ∧ code / 262144 % 8 = code / 262144 := by
    omega
  have lowDigits := digits (Nat.lt_trans ordered top)
  have highDigits := digits top
  generalize first.val.toNat = low at *
  generalize second.val.toNat = high at *
  -- One case for each number of bytes that the two take. Where these differ, so do the first bytes.
  -- Otherwise the first digit to the base 64 decides in which the two numbers differ.
  repeat' split
  all_goals
    simp (disch := omega) only [List.cons_append, List.nil_append, ofNat_cons_lt_iff]
    omega

/-- Texts in the order of their code points are in the order of their bytes.

Proof: induction on the first text. The characters before the first difference have the same bytes. -/
theorem flatMap_utf8EncodeChar_lt {first second : List Char} (before : first < second) :
    first.flatMap String.utf8EncodeChar < second.flatMap String.utf8EncodeChar := by
  induction first generalizing second with
  | nil =>
    cases second with
    | nil => exact absurd before (List.not_lt_nil [])
    | cons char rest =>
      rw [List.flatMap_cons]
      cases bytes : String.utf8EncodeChar char with
      | nil => exact absurd bytes String.utf8EncodeChar_ne_nil
      | cons byte others => exact List.nil_lt_cons _ _
  | cons char rest inductionHypothesis =>
    cases second with
    | nil => exact absurd before (List.not_lt_nil _)
    | cons other later =>
      rw [List.flatMap_cons, List.flatMap_cons]
      rcases List.cons_lt_cons_iff.mp before with smaller | ⟨rfl, further⟩
      · exact utf8EncodeChar_append_lt smaller _ _
      · exact List.append_left_lt (inductionHypothesis further)

/-- The order of texts is that of their bytes. -/
theorem utf8_lt_of_lt {first second : String} (before : first < second) :
    utf8 first < utf8 second := by
  rw [utf8_eq_flatMap, utf8_eq_flatMap]
  exact flatMap_utf8EncodeChar_lt (String.lt_iff_toList_lt.mp before)

end LevelGraph.Text
