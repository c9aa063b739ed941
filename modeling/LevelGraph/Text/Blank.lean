/-!
# Blank characters

A location, a log directory and a level name may be surrounded by blanks, and
one made of blanks alone names nothing. Blank means the Unicode property
`White_Space`: twenty-five code points, among them the no-break and the
ideographic space, and not the zero-width space or the byte order mark.

Lower-casing here concerns the twenty-six ASCII capitals only.
-/

namespace LevelGraph.Text

/-- Whether a character has the Unicode property `White_Space`. -/
def isBlank (char : Char) : Bool :=
  let code := char.toNat
  (9 ≤ code && code ≤ 13) || code == 0x20 || code == 0x85 || code == 0xA0 || code == 0x1680 ||
    (0x2000 ≤ code && code ≤ 0x200A) || code == 0x2028 || code == 0x2029 || code == 0x202F ||
    code == 0x205F || code == 0x3000

/-- Remove what satisfies a test from both ends of a list. -/
def stripBoth (test : Char → Bool) (chars : List Char) : List Char :=
  ((chars.dropWhile test).reverse.dropWhile test).reverse

/-- A text without the blanks at its two ends. -/
def trim (text : String) : String := String.ofList (stripBoth isBlank text.toList)

/-- Whether a text is empty or made of blanks alone. -/
def isBlankText (text : String) : Bool := text.toList.all isBlank

/-- The text with its ASCII capitals lowered and every other character kept. -/
def lowerAscii (text : String) : String := text.map Char.toLower

/-- Every blank known to the standard character class is a blank here. -/
theorem isBlank_of_isWhitespace (char : Char) (white : char.isWhitespace = true) :
    isBlank char = true := by
  simp only [Char.isWhitespace, Bool.or_eq_true, decide_eq_true_eq] at white
  rcases white with ((space | tab) | carriage) | feed <;> subst_vars <;> rfl

end LevelGraph.Text
