import LevelGraph.Json.Skip

/-!
# Readers for the parts of a persisted form

A reader knows which value it wants and takes it from the front of a text. The
readers here take strings, truth values, optional values, lists, objects used as
maps, and structures. They are told how many more brackets may be opened, the
room left; opening one without room is malformed text.

A structure has named fields and is read from an object, with its members in any
order, or from a list of its fields in declaration order, where fields with a
default may be left off at the end. A member named twice is refused at its second
name, a missing field at the closing bracket. Unknown members are passed over, or
refused at their name where the structure is strict.
-/

namespace LevelGraph.Json

/-- The number of brackets that may be open at once. -/
def maxDepth : Nat := 127

/-- A string. -/
def readString : Reader String := fun text =>
  match skipSpace text with
  | '"' :: rest =>
    match readQuoted rest with
    | .error fault => .error fault
    | .ok (chars, rest) => .ok (String.ofList chars, rest)
  | rest => .error (mismatch rest)

/-- A truth value. -/
def readBool : Reader Bool := fun text =>
  match skipSpace text with
  | 't' :: rest =>
    match scanWord "rue".toList rest with
    | .error fault => .error fault
    | .ok rest => .ok (true, rest)
  | 'f' :: rest =>
    match scanWord "alse".toList rest with
    | .error fault => .error fault
    | .ok rest => .ok (false, rest)
  | rest => .error (mismatch rest)

/-- A value, or `null` for its absence. -/
def readOption {α : Type} (value : Reader α) : Reader (Option α) := fun text =>
  match skipSpace text with
  | 'n' :: rest =>
    match scanWord "ull".toList rest with
    | .error fault => .error fault
    | .ok rest => .ok (none, rest)
  | rest =>
    match value rest with
    | .error fault => .error fault
    | .ok (held, rest) => .ok (some held, rest)

/-- A string that has to spell a value. -/
def readSpelled {α : Type} (spelled? : String → Option α) : Reader α := fun text =>
  match readString text with
  | .error fault => .error fault
  | .ok (word, rest) =>
    match spelled? word with
    | some value => .ok (value, rest)
    | none => .error .unsuitable

/-- Put a value read into a draft of what it belongs to. -/
def readInto {σ α : Type} (value : Reader α) (put : α → σ) : Reader σ := fun text =>
  match value text with
  | .error fault => .error fault
  | .ok (held, rest) => .ok (put held, rest)

/-- Whether another item follows in a list: `true` with the text in front of the
item, or `false` with the text behind the closing bracket. -/
def nextItem (first : Bool) : Reader Bool := fun text =>
  match skipSpace text with
  | [] => .error .truncated
  | ']' :: rest => .ok (false, rest)
  | char :: rest =>
    if first then .ok (true, char :: rest)
    else if char = ',' then
      match skipSpace rest with
      | ']' :: _ => .error .malformed
      | rest => .ok (true, rest)
    else .error .malformed

/-- The items of a list up to its closing bracket. Every item takes a character,
so a step per character is enough. -/
def readItems {α : Type} (item : Reader α) : Nat → Bool → Reader (List α)
  | 0, _, _ => .error .truncated
  | steps + 1, first, text =>
    match nextItem first text with
    | .error fault => .error fault
    | .ok (false, rest) => .ok ([], rest)
    | .ok (true, rest) =>
      match item rest with
      | .error fault => .error fault
      | .ok (value, rest) =>
        match readItems item steps false rest with
        | .error fault => .error fault
        | .ok (values, rest) => .ok (value :: values, rest)

/-- A list of values. -/
def readList {α : Type} (room : Nat) (item : Reader α) : Reader (List α) := fun text =>
  match skipSpace text with
  | '[' :: rest =>
    if room = 0 then .error .malformed else readItems item (rest.length + 1) true rest
  | rest => .error (mismatch rest)

/-- The name of the next member of an object, or none with the text behind the
closing bracket. -/
def nextName (first : Bool) : Reader (Option String) := fun text =>
  match skipSpace text with
  | [] => .error .truncated
  | '}' :: rest => .ok (none, rest)
  | char :: rest =>
    if first ∨ char = ',' then
      match (if first then char :: rest else skipSpace rest) with
      | [] => .error .truncated
      | '"' :: rest =>
        match readQuoted rest with
        | .error fault => .error fault
        | .ok (chars, rest) => .ok (some (String.ofList chars), rest)
      | _ => .error .malformed
    else .error .malformed

/-- The members of an object up to its closing bracket, in text order. Every
member takes a character, so a step per character is enough. -/
def readMembers {α : Type} (value : Reader α) : Nat → Bool → Reader (List (String × α))
  | 0, _, _ => .error .truncated
  | steps + 1, first, text =>
    match nextName first text with
    | .error fault => .error fault
    | .ok (none, rest) => .ok ([], rest)
    | .ok (some name, rest) =>
      match scanColon rest with
      | .error fault => .error fault
      | .ok rest =>
        match value rest with
        | .error fault => .error fault
        | .ok (held, rest) =>
          match readMembers value steps false rest with
          | .error fault => .error fault
          | .ok (members, rest) => .ok ((name, held) :: members, rest)

/-- An object used as a map: its members in text order, names repeated as written. -/
def readMap {α : Type} (room : Nat) (value : Reader α) : Reader (List (String × α)) := fun text =>
  match skipSpace text with
  | '{' :: rest =>
    if room = 0 then .error .malformed else readMembers value (rest.length + 1) true rest
  | rest => .error (mismatch rest)

/-- A field of a structure that is read into a draft of it. -/
structure Field (σ : Type) where
  /-- The member's name. -/
  name : String
  /-- Whether the structure cannot do without it. -/
  required : Bool
  /-- Whether a draft already has it. -/
  taken : σ → Bool
  /-- Read its value into a draft. -/
  read : σ → Reader σ

/-- Read the members of a structure into a draft, up to the closing bracket. -/
def readNamedFields {σ : Type} (strict : Bool) (fields : List (Field σ)) :
    Nat → Bool → σ → Reader σ
  | 0, _, _, _ => .error .truncated
  | steps + 1, first, draft, text =>
    match nextName first text with
    | .error fault => .error fault
    | .ok (none, rest) => .ok (draft, rest)
    | .ok (some name, rest) =>
      match fields.find? (fun field => field.name == name) with
      | none =>
        if strict then .error .unsuitable
        else
          match scanColon rest with
          | .error fault => .error fault
          | .ok rest =>
            match scanValue rest with
            | .error fault => .error fault
            | .ok rest => readNamedFields strict fields steps false draft rest
      | some field =>
        if field.taken draft then .error .unsuitable
        else
          match scanColon rest with
          | .error fault => .error fault
          | .ok rest =>
            match field.read draft rest with
            | .error fault => .error fault
            | .ok (draft, rest) => readNamedFields strict fields steps false draft rest

/-- Pass over the closing bracket of a list that has to end here. -/
def scanListEnd : Scanner := fun text =>
  match skipSpace text with
  | [] => .error .truncated
  | ']' :: rest => .ok rest
  | _ => .error .malformed

/-- Read the fields of a structure in order into a draft, up to the closing bracket. -/
def readListedFields {σ : Type} : List (Field σ) → Bool → σ → Reader σ
  | [], _, draft, text =>
    match scanListEnd text with
    | .error fault => .error fault
    | .ok rest => .ok (draft, rest)
  | field :: fields, first, draft, text =>
    match nextItem first text with
    | .error fault => .error fault
    | .ok (false, rest) =>
      if (field :: fields).any (·.required) then .error .unsuitable else .ok (draft, rest)
    | .ok (true, rest) =>
      match field.read draft rest with
      | .error fault => .error fault
      | .ok (draft, rest) => readListedFields fields false draft rest

/-- A structure, from an object or from a list of its fields. What is missing is
found by `complete?` once the closing bracket is reached. -/
def readStruct {σ α : Type} (room : Nat) (strict : Bool) (fields : List (Field σ)) (blank : σ)
    (complete? : σ → Option α) : Reader α := fun text =>
  let finish : Except Fault (σ × List Char) → Except Fault (α × List Char)
    | .error fault => .error fault
    | .ok (draft, rest) =>
      match complete? draft with
      | some value => .ok (value, rest)
      | none => .error .unsuitable
  match skipSpace text with
  | '[' :: rest =>
    if room = 0 then .error .malformed else finish (readListedFields fields true blank rest)
  | '{' :: rest =>
    if room = 0 then .error .malformed
    else finish (readNamedFields strict fields (rest.length + 1) true blank rest)
  | rest => .error (mismatch rest)

/-- A word of a fixed vocabulary as the only name of an object, with `null` for its value.
The bracket has been read. -/
def readChosen {α : Type} (spelled? : String → Option α) : Reader α := fun text =>
  match readSpelled spelled? text with
  | .error fault => .error fault
  | .ok (value, rest) =>
    match scanColon rest with
    | .error fault => .error fault
    | .ok rest =>
      match skipSpace rest with
      | 'n' :: rest =>
        match scanWord "ull".toList rest with
        | .error fault => .error fault
        | .ok rest =>
          match skipSpace rest with
          | [] => .error .truncated
          | '}' :: rest => .ok (value, rest)
          | _ => .error .malformed
      | rest => .error (mismatch rest)

/-- A word of a fixed vocabulary, as a string or as an object with the word for its
only name and `null` for its value. Anything but a name in the object is malformed. -/
def readChoice {α : Type} (room : Nat) (spelled? : String → Option α) : Reader α := fun text =>
  match skipSpace text with
  | [] => .error .truncated
  | '"' :: rest => readSpelled spelled? ('"' :: rest)
  | '{' :: rest =>
    if room = 0 then .error .malformed
    else
      match skipSpace rest with
      | [] => .error .truncated
      | '"' :: rest => readChosen spelled? ('"' :: rest)
      | _ => .error .malformed
  | _ => .error .malformed

/-- Read a whole text; only space may follow the value. -/
def read {α : Type} (reader : Reader α) (text : String) : Except Fault α :=
  match reader text.toList with
  | .error fault => .error fault
  | .ok (value, rest) => if skipSpace rest = [] then .ok value else .error .malformed

end LevelGraph.Json
