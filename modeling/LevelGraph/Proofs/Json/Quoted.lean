import LevelGraph.Json.Reader
import LevelGraph.Json.Writer
import LevelGraph.Uuid

/-!
# Quoted text reads back

Whatever characters a string holds, reading its quoted form gives the string again
and leaves what stood behind the closing quote. An identifier read from its own
written form is that identifier, so no two identifiers share a text.
-/

namespace LevelGraph

namespace Json

/-- A character put in front of what is read of a string. -/
def prepend (char : Char) :
    Except Fault (List Char × List Char) → Except Fault (List Char × List Char)
  | .error fault => .error fault
  | .ok (chars, rest) => .ok (char :: chars, rest)

/-- Four digits of a unit below 2^16 are read as the unit. -/
theorem readUnit_hexDigits {unit : Nat} (small : unit < 1 <<< 16) (rest : List Char) :
    readUnit (Text.hexDigits 4 unit ++ rest) = .ok (unit, rest) := by
  obtain ⟨first, second, third, fourth, digits⟩ :
      ∃ first second third fourth, Text.hexDigits 4 unit = [first, second, third, fourth] :=
    ⟨_, _, _, _, rfl⟩
  have number : Text.hexNumber? [first, second, third, fourth] = some unit := by
    have read := Text.hexNumberFrom?_hexDigits 0 4 unit
    rw [Nat.zero_shiftLeft, Nat.zero_add, Nat.mod_eq_of_lt small, digits] at read
    exact read
  simp only [digits, List.cons_append, List.nil_append, readUnit, number]

/-- An escape in front of a string spells the string's first character. -/
theorem readQuoted_of_readEscape {text after : List Char} {char : Char}
    (taken : readEscape text = .ok (char, after)) :
    readQuoted ('\\' :: text) = prepend char (readQuoted after) := by
  rw [readQuoted]
  split
  · next failed =>
    rw [taken] at failed
    cases failed
  · next spelled behind read =>
    rw [taken] at read
    cases read
    rfl

/-- A character that needs no escape stands for itself. -/
theorem readQuoted_plain {char : Char} (noQuote : char ≠ '"') (noBackslash : char ≠ '\\')
    (printable : ¬ char.toNat < 0x20) (text : List Char) :
    readQuoted (char :: text) = prepend char (readQuoted text) := by
  rw [readQuoted]
  · rw [if_neg printable]
    rfl
  · exact fun same => noQuote same
  · exact fun same => noBackslash same

/-- The written form of a character is read as the character.

Proof: one case for each letter escape, one for the control characters that are
spelled by digits, one for the characters that stand for themselves. -/
theorem readQuoted_escapeChar (char : Char) (text : List Char) :
    readQuoted (escapeChar char ++ text) = prepend char (readQuoted text) := by
  unfold escapeChar
  split
  · exact readQuoted_of_readEscape rfl
  · exact readQuoted_of_readEscape rfl
  · exact readQuoted_of_readEscape rfl
  · exact readQuoted_of_readEscape rfl
  · exact readQuoted_of_readEscape rfl
  · exact readQuoted_of_readEscape rfl
  · exact readQuoted_of_readEscape rfl
  · next noQuote noBackslash _ _ _ _ _ =>
    split
    · next control =>
      refine readQuoted_of_readEscape ?_
      have small : char.toNat < 1 <<< 16 := Nat.lt_trans control (by decide)
      have noTrailing : isTrailingHalf char.toNat = false := by
        simp only [isTrailingHalf, Bool.and_eq_false_imp, decide_eq_true_eq]
        omega
      have noLeading : isLeadingHalf char.toNat = false := by
        simp only [isLeadingHalf, Bool.and_eq_false_imp, decide_eq_true_eq]
        omega
      show readEscape ('u' :: (Text.hexDigits 4 char.toNat ++ text)) = .ok (char, text)
      simp only [readEscape, if_true, readUnit_hexDigits small, readUnitChar, noTrailing,
        noLeading, Bool.false_eq_true, if_false, Char.ofNat_toNat]
    · next printable =>
      exact readQuoted_plain (fun same => noQuote same) (fun same => noBackslash same) printable text

/-- The escaped characters of a string are read back up to the closing quote. -/
theorem readQuoted_escaped (chars rest : List Char) :
    readQuoted (chars.flatMap escapeChar ++ '"' :: rest) = .ok (chars, rest) := by
  induction chars with
  | nil =>
    rw [List.flatMap_nil, List.nil_append, readQuoted]
  | cons char chars inductionHypothesis =>
    rw [List.flatMap_cons, List.append_assoc, readQuoted_escapeChar, inductionHypothesis]
    rfl

/-- Characters between quotes are read back, and what followed them is left. -/
theorem readString_quoteThen (chars rest : List Char) :
    readString (quoteThen chars [] ++ rest) = .ok (String.ofList chars, rest) := by
  have opened : skipSpace (quoteThen chars [] ++ rest) =
      '"' :: (chars.flatMap escapeChar ++ '"' :: rest) := by
    simp [quoteThen, skipSpace, isSpace]
  simp only [readString, opened, readQuoted_escaped]

/-- A quoted string is read back, and what followed it is left. -/
theorem readString_quote (text : String) (rest : List Char) :
    readString (quote text ++ rest) = .ok (text, rest) := by
  rw [quote, readString_quoteThen, String.ofList_toList]

end Json

namespace Uuid

/-- Five groups of digits with hyphens between them are read as the digits without
the hyphens. -/
theorem ofHyphenated?_groups {first second third fourth fifth : List Char}
    (eight : first.length = 8) (four : second.length = 4) (fourMore : third.length = 4)
    (fourAgain : fourth.length = 4) (twelve : fifth.length = 12) :
    ofHyphenated? (first ++ '-' :: (second ++ '-' :: (third ++ '-' :: (fourth ++ '-' :: fifth)))) =
      ofDigits? (first ++ (second ++ (third ++ (fourth ++ fifth)))) := by
  simp [ofHyphenated?, List.drop_append, List.drop_eq_nil_of_le, eight, four,
    fourMore, fourAgain, twelve]

/-- The thirty-two digits of an identifier are read as the identifier. -/
theorem ofDigits?_hexDigits (id : Uuid) : ofDigits? (Text.hexDigits 32 id.value) = some id := by
  have number : Text.hexNumber? (Text.hexDigits 32 id.value) = some id.value := by
    have read := Text.hexNumberFrom?_hexDigits 0 32 id.value
    rw [Nat.zero_shiftLeft, Nat.zero_add, Nat.mod_eq_of_lt id.bounded] at read
    exact read
  rw [ofDigits?, if_pos (Text.length_hexDigits 32 id.value), number, Option.map_some, ofNat]
  simp only [Nat.mod_eq_of_lt id.bounded]

/-- The written form has thirty-two digits and four hyphens. -/
theorem length_chars (id : Uuid) : id.chars.length = 36 := by
  simp [chars]

/-- An identifier's written form is read as the identifier. -/
theorem ofString?_chars (id : Uuid) : ofString? (String.ofList id.chars) = some id := by
  have long : id.chars.length = 36 := id.length_chars
  rw [ofString?, String.toList_ofList, ofChars?, if_neg (by omega), if_pos long, chars,
    ofHyphenated?_groups (by simp) (by simp) (by simp) (by simp) (by simp)]
  rw [← ofDigits?_hexDigits id]
  refine congrArg ofDigits? ?_
  generalize Text.hexDigits 32 id.value = digits
  have group (start count : Nat) :
      (digits.drop start).take count ++ digits.drop (start + count) = digits.drop start := by
    rw [← List.drop_drop, List.take_append_drop]
  rw [group 16 4, group 12 4, group 8 4, List.take_append_drop]

end Uuid

end LevelGraph
