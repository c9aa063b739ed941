/-!
# Hexadecimal digits

Digits are written in lower case and read in either case. A number is written
with a fixed count of digits, most significant first.
-/

namespace LevelGraph.Text

/-- The lower-case digit of a value below sixteen. -/
def hexDigit (value : Nat) : Char :=
  if value < 10 then Char.ofNat (48 + value) else Char.ofNat (87 + value)

/-- The value of a hexadecimal digit in either case. -/
def hexValue? (char : Char) : Option Nat :=
  let code := char.toNat
  if 48 ≤ code ∧ code ≤ 57 then some (code - 48)
  else if 97 ≤ code ∧ code ≤ 102 then some (code - 87)
  else if 65 ≤ code ∧ code ≤ 70 then some (code - 55)
  else none

/-- The lowest `width` hexadecimal digits of a number, most significant first. -/
def hexDigits : Nat → Nat → List Char
  | 0, _ => []
  | width + 1, value => hexDigits width (value / 16) ++ [hexDigit (value % 16)]

/-- The number that a run of hexadecimal digits denotes, the digits already read
weighing sixteen times more with each further one. -/
def hexNumberFrom? : Nat → List Char → Option Nat
  | read, [] => some read
  | read, char :: rest =>
    match hexValue? char with
    | none => none
    | some value => hexNumberFrom? (read * 16 + value) rest

/-- The number that a run of hexadecimal digits denotes, if it has no other character. -/
def hexNumber? (chars : List Char) : Option Nat := hexNumberFrom? 0 chars

/-- The bytes that pairs of digits denote; a character that is no digit counts as zero. -/
def hexBytes : List Char → List UInt8
  | high :: low :: rest =>
    (((hexValue? high).getD 0) * 16 + (hexValue? low).getD 0).toUInt8 :: hexBytes rest
  | _ => []

/-- A written digit is read back as its value. -/
theorem hexValue?_hexDigit {value : Nat} (small : value < 16) :
    hexValue? (hexDigit value) = some value := by
  rcases value with _ | _ | _ | _ | _ | _ | _ | _ | _ | _ | _ | _ | _ | _ | _ | _ | value
  all_goals first | rfl | omega

/-- As many digits are written as asked for. -/
@[simp] theorem length_hexDigits (width value : Nat) : (hexDigits width value).length = width := by
  induction width generalizing value with
  | zero => rfl
  | succ width inductionHypothesis => simp [hexDigits, inductionHypothesis]

/-- Reading goes on after a first run of digits with the number read so far. -/
theorem hexNumberFrom?_append (read : Nat) (front back : List Char) :
    hexNumberFrom? read (front ++ back) =
      (hexNumberFrom? read front).bind fun number => hexNumberFrom? number back := by
  induction front generalizing read with
  | nil => rfl
  | cons char rest inductionHypothesis =>
    simp only [List.cons_append, hexNumberFrom?]
    cases hexValue? char with
    | none => rfl
    | some value => exact inductionHypothesis _

/-- Digits written are read back as the number, as far as they reach. -/
theorem hexNumberFrom?_hexDigits (read width value : Nat) :
    hexNumberFrom? read (hexDigits width value) =
      some (read <<< (4 * width) + value % 1 <<< (4 * width)) := by
  rw [Nat.shiftLeft_eq, Nat.shiftLeft_eq, Nat.one_mul, Nat.pow_mul]
  show _ = some (read * 16 ^ width + value % 16 ^ width)
  induction width generalizing value with
  | zero => simp [hexDigits, hexNumberFrom?, Nat.mod_one]
  | succ width inductionHypothesis =>
    have small : value % 16 < 16 := Nat.mod_lt _ (by decide)
    simp only [hexDigits, hexNumberFrom?_append, inductionHypothesis, Option.bind_some,
      hexNumberFrom?, hexValue?_hexDigit small, Option.some.injEq]
    have split : value % 16 ^ (width + 1) = value / 16 % 16 ^ width * 16 + value % 16 := by
      rw [Nat.pow_succ, Nat.mul_comm (16 ^ width) 16, Nat.mod_mul]
      omega
    rw [split, Nat.pow_succ, Nat.add_mul, ← Nat.mul_assoc]
    omega

end LevelGraph.Text
