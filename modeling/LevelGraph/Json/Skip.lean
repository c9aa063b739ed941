import LevelGraph.Json.Number
import LevelGraph.Json.Quoted

/-!
# Passing over values

A member that nobody asked for is passed over. Its text must still follow the
grammar, but nothing is kept of it: it may nest as deep as it likes, its numbers
may be of any size, and its strings may hold halves of surrogate pairs. The open
brackets are a stack, so the depth costs no recursion.

`mismatch` says what is wrong with a value that stands in the place of another.
-/

namespace LevelGraph.Json

/-- A bracket that is open around the place reached. -/
inductive Bracket where
  /-- Inside a list. -/
  | list
  /-- Inside an object. -/
  | object
  deriving DecidableEq

/-- Pass over the colon between a member's name and its value. -/
def scanColon : Scanner := fun text =>
  match skipSpace text with
  | [] => .error .truncated
  | ':' :: rest => .ok rest
  | _ => .error .malformed

/-- Pass over a member's name and the colon behind it. -/
def scanName : Scanner := fun text =>
  match skipSpace text with
  | [] => .error .truncated
  | '"' :: rest =>
    match scanQuoted rest with
    | .error fault => .error fault
    | .ok rest => scanColon rest
  | _ => .error .malformed

/-- Pass over a value that is neither list nor object, space in front already gone. -/
def scanScalar : Scanner
  | [] => .error .truncated
  | 'n' :: rest => scanWord "ull".toList rest
  | 't' :: rest => scanWord "rue".toList rest
  | 'f' :: rest => scanWord "alse".toList rest
  | '"' :: rest => scanQuoted rest
  | '-' :: rest => scanNumber rest
  | char :: rest => if isDigit char then scanNumber (char :: rest) else .error .malformed

mutual

/-- Pass over a value and all that is left of the open brackets around it. Every
step takes a character, so a step per character is enough. -/
def scanItem : Nat → List Bracket → Scanner
  | 0, _, _ => .error .truncated
  | steps + 1, brackets, text =>
    match skipSpace text with
    | '[' :: rest =>
      match skipSpace rest with
      | ']' :: rest => scanRest steps brackets rest
      | _ => scanItem steps (.list :: brackets) rest
    | '{' :: rest =>
      match skipSpace rest with
      | '}' :: rest => scanRest steps brackets rest
      | _ =>
        match scanName rest with
        | .error fault => .error fault
        | .ok rest => scanItem steps (.object :: brackets) rest
    | rest =>
      match scanScalar rest with
      | .error fault => .error fault
      | .ok rest => scanRest steps brackets rest

/-- Pass over all that is left of the open brackets, a value having just ended. -/
def scanRest : Nat → List Bracket → Scanner
  | _, [], text => .ok text
  | 0, _ :: _, _ => .error .truncated
  | steps + 1, bracket :: brackets, text =>
    match skipSpace text with
    | [] => .error .truncated
    | ',' :: rest =>
      match bracket with
      | .list => scanItem steps (bracket :: brackets) rest
      | .object =>
        match scanName rest with
        | .error fault => .error fault
        | .ok rest => scanItem steps (bracket :: brackets) rest
    | ']' :: rest =>
      if bracket = .list then scanRest steps brackets rest else .error .malformed
    | '}' :: rest =>
      if bracket = .object then scanRest steps brackets rest else .error .malformed
    | _ => .error .malformed

end

/-- Pass over one value of any kind. -/
def scanValue : Scanner := fun text => scanItem (text.length + 1) [] text

/-- Answer a value that is well formed but of the wrong kind. -/
def unsuitableAfter : Except Fault (List Char) → Fault
  | .error fault => fault
  | .ok _ => .unsuitable

/-- The fault of a value that stands in the place of one of another kind, space in
front already gone. A scalar is read first, and its own fault comes first; a
list or an object is refused at its bracket. -/
def mismatch : List Char → Fault
  | [] => .truncated
  | 'n' :: rest => unsuitableAfter (scanWord "ull".toList rest)
  | 't' :: rest => unsuitableAfter (scanWord "rue".toList rest)
  | 'f' :: rest => unsuitableAfter (scanWord "alse".toList rest)
  | '"' :: rest => unsuitableAfter ((readQuoted rest).map (·.2))
  | '[' :: _ => .unsuitable
  | '{' :: _ => .unsuitable
  | '-' :: rest => unsuitableAfter (scanFiniteNumber rest)
  | char :: rest =>
    if isDigit char then unsuitableAfter (scanFiniteNumber (char :: rest)) else .malformed

end LevelGraph.Json
