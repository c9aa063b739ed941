import LevelGraph.Text.Hidden

/-!
# Text between quotes for a person's eyes

A displayed text stands between quotes on one line. Quotes and backslashes get a
backslash in front, the usual controls their short escapes, and every other character
that does not show as a mark of its own is given by its code point in hexadecimal digits.
-/

namespace LevelGraph.Text

/-- A character as it is displayed. -/
def displayChar (char : Char) : List Char :=
  if char = '"' then ['\\', '"']
  else if char = '\\' then ['\\', '\\']
  else if char = '\n' then ['\\', 'n']
  else if char = '\r' then ['\\', 'r']
  else if char = '\t' then ['\\', 't']
  else if char = '\x00' then ['\\', '0']
  else if isHidden char then
    '\\' :: 'u' :: '\x7b' :: (Nat.toDigits 16 char.toNat ++ ['\x7d'])
  else [char]

/-- A text as it is displayed. -/
def display (text : String) : String :=
  String.ofList ('"' :: (text.toList.flatMap displayChar ++ ['"']))

end LevelGraph.Text
