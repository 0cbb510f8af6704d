import RoutePattern.Text.Utf8

/-!
# Percent escapes

An escape is a percent sign and two hexadecimal digits; it stands for one byte. Reading is
lenient: a percent sign that opens no escape stands for itself, and a text whose escapes do not
add up to UTF-8 is kept as it is written, so that nothing is lost. `escape` writes every byte of a
text as an escape.
-/

namespace RoutePattern.Text

/-- The value of a hexadecimal digit of either case. -/
def hexValue? (b : UInt8) : Option UInt8 :=
  if 0x30 ≤ b ∧ b ≤ 0x39 then some (b - 0x30)
  else if 0x41 ≤ b ∧ b ≤ 0x46 then some (b - 0x37)
  else if 0x61 ≤ b ∧ b ≤ 0x66 then some (b - 0x57)
  else none

def escapedByte? (high low : UInt8) : Option UInt8 :=
  match hexValue? high, hexValue? low with
  | some h, some l => some (h * 16 + l)
  | _, _ => none

def percentByte : UInt8 := 0x25

/-- Replaces each escape by its byte, from left to right, and keeps every other byte. -/
def unescapeBytes : List UInt8 → List UInt8
  | [] => []
  | [b] => [b]
  | [b, c] => [b, c]
  | b :: high :: low :: rest =>
    if b = percentByte then
      match escapedByte? high low with
      | some byte => byte :: unescapeBytes rest
      | none => b :: unescapeBytes (high :: low :: rest)
    else b :: unescapeBytes (high :: low :: rest)

/-- The text with its escapes read, or the text itself if that gives no UTF-8. -/
def percentDecode (t : Text) : Text :=
  (ofUtf8? (unescapeBytes (utf8 t))).getD t

def hexDigit (n : UInt8) : Char :=
  if n < 10 then Char.ofUInt8 (0x30 + n) else Char.ofUInt8 (0x37 + n)

def escapeByte (b : UInt8) : Text :=
  ['%', hexDigit (b / 16), hexDigit (b % 16)]

def percentEncode (t : Text) : Text :=
  (utf8 t).flatMap escapeByte

end RoutePattern.Text
