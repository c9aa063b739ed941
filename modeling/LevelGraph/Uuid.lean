import LevelGraph.Table
import LevelGraph.Text.Hex

/-!
# Identifiers

Nodes and documents are addressed by 128-bit identifiers. One is always written
as thirty-two lower-case hexadecimal digits with hyphens after the eighth,
twelfth, sixteenth and twentieth. It is read in that form, without hyphens,
in braces, or behind `urn:uuid:`, with digits in either case. The braces and
the name go with the hyphenated form only.
-/

namespace LevelGraph

/-- A 128-bit identifier. -/
@[ext] structure Uuid where
  /-- The identifier as a number. -/
  value : Nat
  /-- It has at most thirty-two hexadecimal digits. -/
  bounded : value < 1 <<< 128
  deriving DecidableEq

namespace Uuid

/-- Identifiers are ordered as numbers. -/
instance : KeyOrder Uuid := KeyOrder.byNumber value Uuid.ext

/-- The identifier of a number, counted modulo the number of identifiers. -/
def ofNat (number : Nat) : Uuid := ⟨number % 1 <<< 128, Nat.mod_lt _ (by decide)⟩

instance : Inhabited Uuid := ⟨ofNat 0⟩

/-- The written form as characters: groups of 8, 4, 4, 4 and 12 digits. -/
def chars (id : Uuid) : List Char :=
  let digits := Text.hexDigits 32 id.value
  digits.take 8 ++ '-' :: ((digits.drop 8).take 4 ++ '-' :: ((digits.drop 12).take 4 ++
    '-' :: ((digits.drop 16).take 4 ++ '-' :: digits.drop 20)))

/-- The written form. -/
def text (id : Uuid) : String := String.ofList id.chars

instance : ToString Uuid := ⟨text⟩

/-- Read thirty-two digits. -/
def ofDigits? (digits : List Char) : Option Uuid :=
  if digits.length = 32 then (Text.hexNumber? digits).map ofNat else none

/-- Read the hyphenated form. -/
def ofHyphenated? (chars : List Char) : Option Uuid :=
  if chars.length = 36 ∧ chars[8]? = some '-' ∧ chars[13]? = some '-' ∧ chars[18]? = some '-' ∧
      chars[23]? = some '-' then
    ofDigits? (chars.take 8 ++ ((chars.drop 9).take 4 ++ ((chars.drop 14).take 4 ++
      ((chars.drop 19).take 4 ++ chars.drop 24))))
  else none

/-- Read any of the accepted forms; the length tells them apart. -/
def ofChars? (chars : List Char) : Option Uuid :=
  if chars.length = 32 then ofDigits? chars
  else if chars.length = 36 then ofHyphenated? chars
  else if chars.length = 38 then
    if chars.head? = some '\x7b' ∧ chars[37]? = some '\x7d' then
      ofHyphenated? ((chars.drop 1).take 36)
    else none
  else if chars.length = 45 then
    if (chars.take 9).map Char.toLower = "urn:uuid:".toList then ofHyphenated? (chars.drop 9)
    else none
  else none

/-- Read an identifier. -/
def ofString? (text : String) : Option Uuid := ofChars? text.toList

end Uuid

end LevelGraph
