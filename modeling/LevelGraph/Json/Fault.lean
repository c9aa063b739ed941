/-!
# Why a JSON text is refused

A text is read front to back and the first fault decides. Faults fall into
three kinds, and nothing finer is promised: a caller learns whether more text
could have helped, whether the text is no JSON, or whether it is JSON of another
shape than asked for.
-/

namespace LevelGraph.Json

/-- The kind of the first fault in a text. -/
inductive Fault where
  /-- The text ends inside a value. -/
  | truncated
  /-- The text breaks the grammar, or nests deeper than allowed. -/
  | malformed
  /-- A well-formed value has the wrong type, name or content. -/
  | unsuitable
  deriving DecidableEq, Repr

/-- A sentence for people. -/
def Fault.message : Fault → String
  | .truncated => "the text ends inside a value"
  | .malformed => "the text is not well-formed JSON"
  | .unsuitable => "a value is not of the expected form"

/-- A reader takes characters off the front of a text, or meets a fault. -/
abbrev Reader (α : Type) := List Char → Except Fault (α × List Char)

/-- A scanner takes characters off the front of a text and yields nothing else. -/
abbrev Scanner := List Char → Except Fault (List Char)

/-- The four characters that may stand between tokens. -/
def isSpace (char : Char) : Bool :=
  char == ' ' || char == '\n' || char == '\t' || char == '\r'

/-- What follows the space at the front. -/
def skipSpace (text : List Char) : List Char := text.dropWhile isSpace

/-- The rest of a fixed word whose first letter has been read. -/
def scanWord : List Char → Scanner
  | [], text => .ok text
  | _ :: _, [] => .error .truncated
  | letter :: letters, char :: rest =>
    if char = letter then scanWord letters rest else .error .malformed

end LevelGraph.Json
