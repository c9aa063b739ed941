import LevelGraph.Json.Fault

/-!
# Numbers that no field asks for

No part of a persisted form is a number, so a number is never kept. It is still
read where it stands in the place of something else, and the kind of fault then
depends on it: an ill-formed number is malformed text, a well-formed one is an
unsuitable value. A number too large for a finite double counts as malformed.

Largeness is decided in exact arithmetic. At most as many leading digits as fit
sixty-four bits form the significand, the others count as tens; significand and
power of ten are each rounded to fifty-three bits, half to even, and the number
is too large when their product reaches the midpoint above the largest double.
-/

namespace LevelGraph.Json

/-- A decimal digit. -/
def isDigit (char : Char) : Bool := 48 ≤ char.toNat && char.toNat ≤ 57

/-- The value of a decimal digit. -/
def digitValue (char : Char) : Nat := char.toNat - 48

/-- A number as written, its sign left out. -/
structure NumberParts where
  /-- The digits before the point. -/
  whole : List Char
  /-- The digits behind the point. -/
  fraction : List Char
  /-- Whether the exponent has a minus sign. -/
  smaller : Bool
  /-- The digits of the exponent. -/
  exponent : List Char

/-- The digits before the point: a lone zero, or digits that do not start with zero. -/
def readWhole : Reader (List Char)
  | [] => .error .truncated
  | char :: rest =>
    if char = '0' then
      if (rest.head?.map isDigit).getD false then .error .malformed else .ok (['0'], rest)
    else if isDigit char then .ok (char :: rest.takeWhile isDigit, rest.dropWhile isDigit)
    else .error .malformed

/-- The digits behind a point, if there is a point. -/
def readFraction : Reader (List Char)
  | '.' :: rest =>
    if rest.takeWhile isDigit = [] then .error (if rest = [] then .truncated else .malformed)
    else .ok (rest.takeWhile isDigit, rest.dropWhile isDigit)
  | text => .ok ([], text)

/-- The digits of an exponent, its mark and sign already read. -/
def readExponentDigits (smaller : Bool) (text : List Char) :
    Except Fault ((Bool × List Char) × List Char) :=
  if text.takeWhile isDigit = [] then .error (if text = [] then .truncated else .malformed)
  else .ok ((smaller, text.takeWhile isDigit), text.dropWhile isDigit)

/-- The sign and digits of an exponent, if there is one. -/
def readExponent (text : List Char) : Except Fault ((Bool × List Char) × List Char) :=
  match text with
  | mark :: rest =>
    if mark = 'e' ∨ mark = 'E' then
      match rest with
      | '-' :: rest => readExponentDigits true rest
      | '+' :: rest => readExponentDigits false rest
      | rest => readExponentDigits false rest
    else .ok ((false, []), text)
  | [] => .ok ((false, []), text)

/-- A number without its sign. -/
def readNumber : Reader NumberParts := fun text =>
  match readWhole text with
  | .error fault => .error fault
  | .ok (whole, rest) =>
    match readFraction rest with
    | .error fault => .error fault
    | .ok (fraction, rest) =>
      match readExponent rest with
      | .error fault => .error fault
      | .ok ((smaller, exponent), rest) => .ok (⟨whole, fraction, smaller, exponent⟩, rest)

/-- Take digits into a significand while it fits sixty-four bits. -/
def takeSignificand : Nat → List Char → Nat × List Char
  | significand, [] => (significand, [])
  | significand, digit :: rest =>
    let next := significand * 10 + digitValue digit
    if next < 1 <<< 64 then takeSignificand next rest else (significand, digit :: rest)

/-- The nearest number of fifty-three significant bits, a half going to the even one. -/
def nearestDouble (number : Nat) : Nat :=
  let excess := Nat.log2 number + 1 - 53
  let unit := 1 <<< excess
  let below := number / unit
  let above := number % unit
  if 2 * above > unit ∨ (2 * above = unit ∧ below % 2 = 1) then (below + 1) * unit
  else below * unit

/-- Whether the number is too large for a finite double. -/
def NumberParts.tooLarge (parts : NumberParts) : Bool :=
  let (wholeTaken, wholeLeft) := takeSignificand 0 parts.whole
  let (significand, fractionLeft) := takeSignificand wholeTaken parts.fraction
  let written : Int := parts.exponent.foldl (fun read digit => read * 10 + digitValue digit) 0
  let tens : Int := wholeLeft.length - (parts.fraction.length - fractionLeft.length) +
    (if parts.smaller then -written else written)
  significand ≠ 0 && (tens > 308 || (tens ≥ 0 &&
    nearestDouble significand * nearestDouble (Nat.pow 10 tens.toNat) ≥ 1 <<< 1024 - 1 <<< 970))

/-- Take a number that has to be a finite double. -/
def scanFiniteNumber : Scanner := fun text =>
  match readNumber text with
  | .error fault => .error fault
  | .ok (parts, rest) => if parts.tooLarge then .error .malformed else .ok rest

/-- Pass over a number of any size; one cut off is no better than one ill-formed. -/
def scanNumber : Scanner := fun text =>
  match readNumber text with
  | .error _ => .error .malformed
  | .ok (_, rest) => .ok rest

end LevelGraph.Json
