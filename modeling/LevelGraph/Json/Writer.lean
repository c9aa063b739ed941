import LevelGraph.Json.Quoted

/-!
# Writing

Values are written without any space. The pieces are lists of characters, so that
a written value can be compared with what a reader takes off the front of a text.
-/

namespace LevelGraph.Json

/-- The items of a bracket with commas between them. -/
def commaSeparated : List (List Char) → List Char
  | [] => []
  | [item] => item
  | item :: rest => item ++ ',' :: commaSeparated rest

/-- A list of written values. -/
def writeList (items : List (List Char)) : List Char := '[' :: (commaSeparated items ++ [']'])

/-- A name and its written value. -/
def writeMember (member : String × List Char) : List Char := quote member.1 ++ ':' :: member.2

/-- An object of written values, in the order given. -/
def writeObject (members : List (String × List Char)) : List Char :=
  '{' :: (commaSeparated (members.map writeMember) ++ ['}'])

/-- A truth value. -/
def writeBool (value : Bool) : List Char := if value then "true".toList else "false".toList

/-- The absence of a value. -/
def writeNull : List Char := "null".toList

/-- A value, or `null` for its absence. -/
def writeOption {α : Type} (write : α → List Char) : Option α → List Char
  | none => writeNull
  | some value => write value

end LevelGraph.Json
