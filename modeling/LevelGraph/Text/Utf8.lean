/-!
# Reading UTF-8

Bytes are read one character at a time. Bytes that spell no text are refused
with the place of the fault: how many bytes before it are well formed, and how
long the ill-formed run is, or that the bytes end inside a character. A run is
the longest start of some character, at least one byte.
-/

namespace LevelGraph.Text

/-- Where a byte sequence stops being UTF-8. -/
structure Utf8Fault where
  /-- The number of well-formed bytes in front of the fault. -/
  validBytes : Nat
  /-- The length of the ill-formed run; none when the bytes end inside a character. -/
  runLength : Option Nat
  deriving DecidableEq, Repr

/-- What is wrong, in words. -/
def Utf8Fault.message (fault : Utf8Fault) : String :=
  match fault.runLength with
  | some length =>
    "invalid utf-8 sequence of " ++ toString length ++ " bytes from index " ++
      toString fault.validBytes
  | none => "incomplete utf-8 byte sequence from index " ++ toString fault.validBytes

/-- Whether a byte continues a character. -/
def isContinuation (byte : UInt8) : Bool := 0x80 ≤ byte.toNat && byte.toNat ≤ 0xBF

/-- The payload of a continuation byte. -/
def continuationBits (byte : UInt8) : Nat := byte.toNat % 0x40

/-- Whether the second byte is allowed after this first one. The four special
leaders exclude overlong forms, surrogates and values past the last code point. -/
def allowsSecond (leader second : UInt8) : Bool :=
  let next := second.toNat
  match leader.toNat with
  | 0xE0 => 0xA0 ≤ next && next ≤ 0xBF
  | 0xED => 0x80 ≤ next && next ≤ 0x9F
  | 0xF0 => 0x90 ≤ next && next ≤ 0xBF
  | 0xF4 => 0x80 ≤ next && next ≤ 0x8F
  | _ => 0x80 ≤ next && next ≤ 0xBF

/-- The number of bytes that a leader announces behind it; none for a byte that
leads no character. -/
def bytesBehind? (leader : UInt8) : Option Nat :=
  let code := leader.toNat
  if code ≤ 0x7F then some 0
  else if 0xC2 ≤ code ∧ code ≤ 0xDF then some 1
  else if 0xE0 ≤ code ∧ code ≤ 0xEF then some 2
  else if 0xF0 ≤ code ∧ code ≤ 0xF4 then some 3
  else none

/-- The character that starts with this leader and the number of bytes it takes
behind it, or the length of the ill-formed run. -/
def firstChar (leader : UInt8) (rest : List UInt8) : Except (Option Nat) (Char × Nat) :=
  match bytesBehind? leader, rest with
  | none, _ => .error (some 1)
  | some 0, _ => .ok (Char.ofNat leader.toNat, 0)
  | some _, [] => .error none
  | some 1, second :: _ =>
    if isContinuation second then
      .ok (Char.ofNat (leader.toNat % 0x20 * 0x40 + continuationBits second), 1)
    else .error (some 1)
  | some 2, second :: after =>
    if allowsSecond leader second then
      match after with
      | [] => .error none
      | third :: _ =>
        if isContinuation third then
          .ok (Char.ofNat ((leader.toNat % 0x10 * 0x40 + continuationBits second) * 0x40 +
            continuationBits third), 2)
        else .error (some 2)
    else .error (some 1)
  | some _, second :: after =>
    if allowsSecond leader second then
      match after with
      | [] => .error none
      | third :: after =>
        if isContinuation third then
          match after with
          | [] => .error none
          | fourth :: _ =>
            if isContinuation fourth then
              .ok (Char.ofNat (((leader.toNat % 0x08 * 0x40 + continuationBits second) * 0x40 +
                continuationBits third) * 0x40 + continuationBits fourth), 3)
            else .error (some 3)
        else .error (some 2)
    else .error (some 1)

/-- The characters that bytes spell, after so many bytes already read. -/
def decodeFrom (read : Nat) : List UInt8 → Except Utf8Fault (List Char)
  | [] => .ok []
  | leader :: rest =>
    match firstChar leader rest with
    | .error run => .error ⟨read, run⟩
    | .ok (char, taken) =>
      (decodeFrom (read + 1 + taken) (rest.drop taken)).map (char :: ·)
termination_by bytes => bytes.length
decreasing_by
  simp only [List.length_drop, List.length_cons]
  omega

/-- The text that bytes spell, or where they stop spelling one. -/
def decodeUtf8 (bytes : List UInt8) : Except Utf8Fault String :=
  (decodeFrom 0 bytes).map String.ofList

end LevelGraph.Text
