import LevelGraph.Json.Fault
import LevelGraph.Text.Hex

/-!
# Quoted text

A string is written between quotes. The quote, the backslash and the characters
below U+0020 are escaped, five of them by a letter and the others by four
hexadecimal digits; every other character stands for itself.

A string is read with any of the eight letter escapes and with `\u` escapes, a
character outside the first plane as the two halves of a surrogate pair. A half
without its partner spells no character and is refused. Where a string is only
passed over, halves are not paired up.
-/

namespace LevelGraph.Json

/-- The written form of one character between quotes. -/
def escapeChar (char : Char) : List Char :=
  match char with
  | '"' => ['\\', '"']
  | '\\' => ['\\', '\\']
  | '\x08' => ['\\', 'b']
  | '\x0c' => ['\\', 'f']
  | '\n' => ['\\', 'n']
  | '\r' => ['\\', 'r']
  | '\t' => ['\\', 't']
  | char =>
    if char.toNat < 0x20 then '\\' :: 'u' :: Text.hexDigits 4 char.toNat else [char]

/-- A string between quotes, followed by a given text. -/
def quoteThen (chars : List Char) (after : List Char) : List Char :=
  '"' :: (chars.flatMap escapeChar ++ '"' :: after)

/-- A string between quotes. -/
def quote (text : String) : List Char := quoteThen text.toList []

/-- Four hexadecimal digits. A text with fewer than four bytes left ends too early,
whatever its characters are. -/
def readUnit : Reader Nat
  | first :: second :: third :: fourth :: rest =>
    match Text.hexNumber? [first, second, third, fourth] with
    | some unit => .ok (unit, rest)
    | none => .error .malformed
  | text =>
    if text.foldl (fun size char => size + char.utf8Size) 0 < 4 then .error .truncated
    else .error .malformed

/-- Whether a sixteen-bit unit is the first half of a surrogate pair. -/
def isLeadingHalf (unit : Nat) : Bool := 0xD800 ≤ unit && unit ≤ 0xDBFF

/-- Whether a sixteen-bit unit is the second half of a surrogate pair. -/
def isTrailingHalf (unit : Nat) : Bool := 0xDC00 ≤ unit && unit ≤ 0xDFFF

/-- The second half of a surrogate pair, with its own escape in front of it. -/
def readTrailingHalf : Reader Nat
  | [] => .error .truncated
  | '\\' :: [] => .error .truncated
  | '\\' :: 'u' :: rest =>
    match readUnit rest with
    | .error fault => .error fault
    | .ok (unit, rest) => if isTrailingHalf unit then .ok (unit, rest) else .error .malformed
  | _ => .error .malformed

/-- The character that a one-letter escape stands for. -/
def letterEscape? (letter : Char) : Option Char :=
  match letter with
  | '"' => some '"'
  | '\\' => some '\\'
  | '/' => some '/'
  | 'b' => some '\x08'
  | 'f' => some '\x0c'
  | 'n' => some '\n'
  | 'r' => some '\r'
  | 't' => some '\t'
  | _ => none

/-- The character of a sixteen-bit unit already read, with its partner behind it
where it is the first half of a pair. -/
def readUnitChar (unit : Nat) : Reader Char := fun rest =>
  if isTrailingHalf unit then .error .malformed
  else if isLeadingHalf unit then
    match readTrailingHalf rest with
    | .error fault => .error fault
    | .ok (trailing, rest) =>
      .ok (Char.ofNat (0x10000 + (unit - 0xD800) * 0x400 + (trailing - 0xDC00)), rest)
  else .ok (Char.ofNat unit, rest)

/-- The character that an escape spells, its backslash already read. -/
def readEscape : Reader Char
  | [] => .error .truncated
  | letter :: rest =>
    if letter = 'u' then
      match readUnit rest with
      | .error fault => .error fault
      | .ok (unit, rest) => readUnitChar unit rest
    else
      match letterEscape? letter with
      | some char => .ok (char, rest)
      | none => .error .malformed

/-- Pass over an escape, its backslash already read, without pairing up halves. -/
def scanEscape : Scanner
  | [] => .error .truncated
  | letter :: rest =>
    if letter = 'u' then
      match readUnit rest with
      | .error fault => .error fault
      | .ok (_, rest) => .ok rest
    else if (letterEscape? letter).isSome then .ok rest
    else .error .malformed

/-- Four digits read are four characters taken. -/
theorem length_of_readUnit {text rest : List Char} {unit : Nat}
    (done : readUnit text = .ok (unit, rest)) : text.length = rest.length + 4 := by
  unfold readUnit at done
  split at done
  · split at done
    · cases done
      rfl
    · cases done
  · split at done <;> cases done

/-- The second half of a pair takes characters. -/
theorem length_of_readTrailingHalf {text rest : List Char} {unit : Nat}
    (done : readTrailingHalf text = .ok (unit, rest)) : rest.length < text.length := by
  unfold readTrailingHalf at done
  split at done
  · cases done
  · cases done
  · split at done
    · cases done
    · next read =>
      split at done
      · cases done
        have taken := length_of_readUnit read
        simp only [List.length_cons]
        omega
      · cases done
  · cases done

/-- A unit's character never puts text back. -/
theorem length_of_readUnitChar {text rest : List Char} {unit : Nat} {char : Char}
    (done : readUnitChar unit text = .ok (char, rest)) : rest.length ≤ text.length := by
  unfold readUnitChar at done
  split at done
  · cases done
  · split at done
    · split at done
      · cases done
      · next halfRead =>
        simp only [Except.ok.injEq, Prod.mk.injEq] at done
        exact done.2 ▸ Nat.le_of_lt (length_of_readTrailingHalf halfRead)
    · simp only [Except.ok.injEq, Prod.mk.injEq] at done
      exact done.2 ▸ Nat.le_refl _

/-- An escape takes at least one character behind its backslash. -/
theorem length_of_readEscape {text rest : List Char} {char : Char}
    (done : readEscape text = .ok (char, rest)) : rest.length < text.length := by
  unfold readEscape at done
  split at done
  · cases done
  · split at done
    · split at done
      · cases done
      · next unitRead =>
        have taken := length_of_readUnit unitRead
        have kept := length_of_readUnitChar done
        simp only [List.length_cons]
        omega
    · split at done
      · cases done
        exact Nat.lt_succ_self _
      · cases done

/-- A passed escape takes at least one character behind its backslash. -/
theorem length_of_scanEscape {text rest : List Char}
    (done : scanEscape text = .ok rest) : rest.length < text.length := by
  unfold scanEscape at done
  split at done
  · cases done
  · split at done
    · split at done
      · cases done
      · next unitRead =>
        cases done
        have taken := length_of_readUnit unitRead
        simp only [List.length_cons]
        omega
    · split at done
      · cases done
        exact Nat.lt_succ_self _
      · cases done

/-- The characters of a string up to its closing quote, the opening one already read. -/
def readQuoted (text : List Char) : Except Fault (List Char × List Char) :=
  match text with
  | [] => .error .truncated
  | '"' :: rest => .ok ([], rest)
  | '\\' :: rest =>
    match taken : readEscape rest with
    | .error fault => .error fault
    | .ok (char, after) =>
      have _shorter := length_of_readEscape taken
      match readQuoted after with
      | .error fault => .error fault
      | .ok (chars, after) => .ok (char :: chars, after)
  | char :: rest =>
    if char.toNat < 0x20 then .error .malformed
    else
      match readQuoted rest with
      | .error fault => .error fault
      | .ok (chars, after) => .ok (char :: chars, after)
termination_by text.length
decreasing_by
  all_goals simp only [List.length_cons]
  all_goals omega

/-- Pass over a string up to its closing quote, the opening one already read. -/
def scanQuoted (text : List Char) : Except Fault (List Char) :=
  match text with
  | [] => .error .truncated
  | '"' :: rest => .ok rest
  | '\\' :: rest =>
    match taken : scanEscape rest with
    | .error fault => .error fault
    | .ok after =>
      have _shorter := length_of_scanEscape taken
      scanQuoted after
  | char :: rest => if char.toNat < 0x20 then .error .malformed else scanQuoted rest
termination_by text.length
decreasing_by
  all_goals simp only [List.length_cons]
  all_goals omega

end LevelGraph.Json
