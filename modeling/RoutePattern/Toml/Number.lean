import RoutePattern.Reader
import RoutePattern.Text.Digits

/-!
# Numbers in TOML

A route table holds no numbers, but a document may, and an ill-formed one makes the whole document
ill-formed. The readers here accept the well-formed numbers: integers within 64 signed bits, in
base ten or with the marks `0x`, `0o` and `0b`, and floats that are not too large for a double.
-/

namespace RoutePattern.Toml

/-- The digits after the first one; a single underscore may stand before each of them. -/
def laterDigits (isDigit : Char → Bool) : Text → Text × Text
  | [] => ([], [])
  | [c] => if isDigit c then ([c], []) else ([], [c])
  | c :: d :: t =>
    if isDigit c then
      let digits := laterDigits isDigit (d :: t)
      (c :: digits.1, digits.2)
    else if c = '_' && isDigit d then
      let digits := laterDigits isDigit t
      (d :: digits.1, digits.2)
    else ([], c :: d :: t)

def digits (isDigit : Char → Bool) : Reader Text := fun t => do
  let (first, t) ← Reader.charWhere isDigit t
  let (later, t) := laterDigits isDigit t
  some (first :: later, t)

/-- Decimal digits, where a zero stands alone. -/
def wholeDigits : Reader Text
  | '0' :: t => some (['0'], t)
  | t => digits Char.isDigit t

def sign : Text → Bool × Text
  | '-' :: t => (true, t)
  | '+' :: t => (false, t)
  | t => (false, t)

def integerBound : Nat := 0x8000000000000000

/-- An integer in a base other than ten, after its mark. -/
def basedInteger (base : Nat) (isDigit : Char → Bool) : Reader Unit := fun t => do
  let (ds, t) ← digits isDigit t
  if Text.numberOf base ds < integerBound then some ((), t) else none

/-- A decimal integer. There is one more below zero than above. -/
def decimalInteger : Reader Unit := fun t => do
  let (negative, t) := sign t
  let (ds, t) ← wholeDigits t
  let n := Text.numberOf 10 ds
  if n < integerBound || negative && n = integerBound then some ((), t) else none

def integer : Reader Unit
  | '0' :: 'x' :: t => basedInteger 16 Text.isHexDigit t
  | '0' :: 'o' :: t => basedInteger 8 (fun c => '0' ≤ c && c ≤ '7') t
  | '0' :: 'b' :: t => basedInteger 2 (fun c => c = '0' || c = '1') t
  | t => decimalInteger t

def fraction : Reader Text
  | '.' :: t => digits Char.isDigit t
  | _ => none

/-- A power of ten after its mark: whether it is negative, and its size. -/
def exponent : Reader (Bool × Nat)
  | c :: t => do
    if c = 'e' || c = 'E' then
      let (negative, t) := sign t
      let (ds, t) ← digits Char.isDigit t
      some ((negative, Text.numberOf 10 ds), t)
    else none
  | [] => none

/-- The least number that is nearer to the power of two after the largest double than to it, or as
near: `2 ^ 1024 - 2 ^ 970`. -/
def floatBound : Nat :=
  Nat.pow 2 1024 - Nat.pow 2 970

/-- Whether `mantissa * 10 ^ up / 10 ^ down` rounds to infinity. The powers are compared with the
number of digits first, so that only powers near the bound are computed. -/
def roundsToInfinity (mantissa up down : Nat) : Bool :=
  let length := (Nat.toDigits 10 mantissa).length
  if mantissa = 0 || length + up < down + 300 then false
  else if down + 320 < length + up then true
  else floatBound * Nat.pow 10 down ≤ mantissa * Nat.pow 10 up

/-- A float with digits. It has a fraction, an exponent or both, and a positive one is not too large
for a double. -/
def decimalFloat : Reader Unit := fun t => do
  let (negative, t) := sign t
  let (whole, t) ← wholeDigits t
  let ((part, shrinks, power), t) ←
    match fraction t with
    | some (part, t) =>
      match exponent t with
      | some ((shrinks, power), t) => some ((part, shrinks, power), t)
      | none => some ((part, false, 0), t)
    | none => (exponent t).map fun (power, t) => (([], power), t)
  let mantissa := Text.numberOf 10 (whole ++ part)
  let infinite :=
    if shrinks then roundsToInfinity mantissa 0 (part.length + power)
    else roundsToInfinity mantissa power part.length
  if !negative && infinite then none else some ((), t)

/-- An infinity or a value that is no number, with or without a sign. -/
def specialFloat : Reader Unit := fun t => do
  let (_, t) := sign t
  let (_, t) ← (Reader.exactly "inf".toList).orElse (Reader.exactly "nan".toList) t
  some ((), t)

def number : Reader Unit := fun t =>
  ((decimalFloat t).or (specialFloat t)).or (integer t)

end RoutePattern.Toml
