import LevelGraph.Text.Hex
import LevelGraph.Text.Utf8

/-!
# Bytes written with percent signs

In an address a byte may be written as a percent sign with two hexadecimal digits. A
percent sign without two digits behind it stands for itself.

The bytes read in this way need not spell a text. Where they are shown to a person, every
ill-formed run shows as one replacement character.
-/

namespace LevelGraph.Text

/-- The byte that two digits denote. -/
def hexByte? (high low : UInt8) : Option UInt8 :=
  match hexValue? (Char.ofNat high.toNat), hexValue? (Char.ofNat low.toNat) with
  | some first, some second => some (first * 16 + second).toUInt8
  | _, _ => none

/-- The bytes that a sequence with percent signs stands for. -/
def unescapePercent : List UInt8 → List UInt8
  | [] => []
  | byte :: rest =>
    match rest with
    | high :: low :: after =>
      match if byte = 0x25 then hexByte? high low else none with
      | some value => value :: unescapePercent after
      | none => byte :: unescapePercent (high :: low :: after)
    | _ => byte :: rest
termination_by bytes => bytes.length

/-- The characters that bytes spell, a replacement character for every ill-formed run. -/
def showBytesFrom : List UInt8 → List Char
  | [] => []
  | leader :: rest =>
    match firstChar leader rest with
    | .ok (char, taken) => char :: showBytesFrom (rest.drop taken)
    | .error (some run) => '\uFFFD' :: showBytesFrom (rest.drop (run - 1))
    | .error none => ['\uFFFD']
termination_by bytes => bytes.length
decreasing_by
  all_goals
    simp only [List.length_drop, List.length_cons]
    omega

/-- Bytes as a text for a person. -/
def showBytes (bytes : List UInt8) : String := String.ofList (showBytesFrom bytes)

end LevelGraph.Text
