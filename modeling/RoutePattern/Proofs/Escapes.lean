import RoutePattern.Text.Percent

/-!
# Reading what was escaped

A byte that is written as an escape, each digit in either case, is read as that byte, whatever
stands after it (`unescapeBytes_escapes`). A text whose bytes are all escaped is therefore read back
unchanged (`percentDecode_percentEncode`), and it holds percent signs and hexadecimal digits only,
none of the characters that pattern texts give a meaning to.
-/

namespace RoutePattern.Text

/-! ## Hexadecimal digits -/

/-- The case in which a hexadecimal digit is written, if it is a letter. -/
inductive DigitCase where
  | upper
  | lower
  deriving DecidableEq, Repr

def hexDigitIn : DigitCase → UInt8 → Char
  | .upper, n => hexDigit n
  | .lower, n => (hexDigit n).toLower

def hexByteIn (digitCase : DigitCase) (n : UInt8) : UInt8 :=
  (hexDigitIn digitCase n).toUInt8

theorem hexDigitIn_table (digitCase : DigitCase) : ∀ n < 16,
    String.utf8EncodeChar (hexDigitIn digitCase (.ofNat n)) = [hexByteIn digitCase (.ofNat n)] ∧
      hexValue? (hexByteIn digitCase (.ofNat n)) = some (.ofNat n) := by
  cases digitCase with
  | upper => decide
  | lower => decide

theorem utf8EncodeChar_hexDigitIn (digitCase : DigitCase) {n : UInt8} (h : n < 16) :
    String.utf8EncodeChar (hexDigitIn digitCase n) = [hexByteIn digitCase n] := by
  simpa using (hexDigitIn_table digitCase n.toNat (UInt8.lt_iff_toNat_lt.1 h)).1

theorem hexValue?_hexByteIn (digitCase : DigitCase) {n : UInt8} (h : n < 16) :
    hexValue? (hexByteIn digitCase n) = some n := by
  simpa using (hexDigitIn_table digitCase n.toNat (UInt8.lt_iff_toNat_lt.1 h)).2

/-! ## One escape -/

def escapeByteIn (cases : DigitCase × DigitCase) (b : UInt8) : Text :=
  ['%', hexDigitIn cases.1 (b / 16), hexDigitIn cases.2 (b % 16)]

theorem div_sixteen_lt (b : UInt8) : b / 16 < 16 := by
  have hb := b.toNat_lt
  rw [UInt8.lt_iff_toNat_lt, UInt8.toNat_div]
  exact (Nat.div_lt_iff_lt_mul (by decide)).2 hb

theorem mod_sixteen_lt (b : UInt8) : b % 16 < 16 :=
  UInt8.mod_lt b (by decide)

theorem div_mul_add_mod_sixteen (b : UInt8) : b / 16 * 16 + b % 16 = b := by
  have hb := b.toNat_lt
  have h16 : (16 : UInt8).toNat = 16 := rfl
  apply UInt8.toNat_inj.1
  simp only [UInt8.toNat_add, UInt8.toNat_mul, UInt8.toNat_div, UInt8.toNat_mod, h16]
  omega

theorem escapedByte?_hexByteIn (high low : DigitCase) (b : UInt8) :
    escapedByte? (hexByteIn high (b / 16)) (hexByteIn low (b % 16)) = some b := by
  rw [escapedByte?, hexValue?_hexByteIn high (div_sixteen_lt b),
    hexValue?_hexByteIn low (mod_sixteen_lt b)]
  exact congrArg some (div_mul_add_mod_sixteen b)

theorem utf8_escapeByteIn (cases : DigitCase × DigitCase) (b : UInt8) :
    utf8 (escapeByteIn cases b) =
      [percentByte, hexByteIn cases.1 (b / 16), hexByteIn cases.2 (b % 16)] := by
  rw [escapeByteIn, utf8_cons, utf8_cons, utf8_cons,
    utf8EncodeChar_hexDigitIn cases.1 (div_sixteen_lt b),
    utf8EncodeChar_hexDigitIn cases.2 (mod_sixteen_lt b)]
  rfl

theorem unescapeBytes_escape {high low byte : UInt8} (h : escapedByte? high low = some byte)
    (rest : List UInt8) :
    unescapeBytes (percentByte :: high :: low :: rest) = byte :: unescapeBytes rest := by
  rw [unescapeBytes, if_pos rfl, h]

/-! ## Escaped bytes -/

/-- Every byte as an escape, with cases of its digits that are chosen for its position. -/
def escapeBytesIn (cases : Nat → DigitCase × DigitCase) (bytes : List UInt8) : Text :=
  (bytes.mapIdx fun position b => escapeByteIn (cases position) b).flatten

theorem escapeBytesIn_cons (cases : Nat → DigitCase × DigitCase) (b : UInt8)
    (bytes : List UInt8) :
    escapeBytesIn cases (b :: bytes) =
      escapeByteIn (cases 0) b ++ escapeBytesIn (fun position => cases (position + 1)) bytes := by
  rw [escapeBytesIn, List.mapIdx_cons, List.flatten_cons]
  rfl

/-- Escaped bytes are read back, whatever stands behind them. -/
theorem unescapeBytes_escapes (cases : Nat → DigitCase × DigitCase) (bytes rest : List UInt8) :
    unescapeBytes (utf8 (escapeBytesIn cases bytes) ++ rest) = bytes ++ unescapeBytes rest := by
  induction bytes generalizing cases with
  | nil => rfl
  | cons b bytes ih =>
      rw [escapeBytesIn_cons, utf8_append, utf8_escapeByteIn, List.append_assoc]
      show unescapeBytes (percentByte :: hexByteIn (cases 0).1 (b / 16) ::
        hexByteIn (cases 0).2 (b % 16) :: (utf8 (escapeBytesIn _ bytes) ++ rest)) = _
      rw [unescapeBytes_escape (escapedByte?_hexByteIn _ _ b), ih]
      rfl

theorem flatMap_escapeByte (bytes : List UInt8) :
    bytes.flatMap escapeByte = escapeBytesIn (fun _ => (.upper, .upper)) bytes := by
  induction bytes with
  | nil => rfl
  | cons b bytes ih =>
      rw [List.flatMap_cons, escapeBytesIn_cons, ih]
      rfl

/-- A text is read back from its escapes. -/
theorem percentDecode_percentEncode (t : Text) : percentDecode (percentEncode t) = t := by
  have hbytes : unescapeBytes (utf8 (percentEncode t)) = utf8 t := by
    have hread := unescapeBytes_escapes (fun _ => (.upper, .upper)) (utf8 t) []
    rw [← flatMap_escapeByte, List.append_nil] at hread
    rw [percentEncode, hread, unescapeBytes, List.append_nil]
  rw [percentDecode, hbytes, ofUtf8?_utf8]
  rfl

theorem not_mem_percentEncode {c : Char} (hpercent : c ≠ '%')
    (hdigit : ∀ n < 16, c ≠ hexDigit (.ofNat n)) (t : Text) : c ∉ percentEncode t := by
  intro h
  obtain ⟨b, -, hb⟩ := List.mem_flatMap.1 h
  have hne : ∀ {n : UInt8}, n < 16 → c ≠ hexDigit n := by
    intro n hn
    simpa using hdigit n.toNat (UInt8.lt_iff_toNat_lt.1 hn)
  simp only [escapeByte, List.mem_cons, List.not_mem_nil, or_false] at hb
  rcases hb with hb | hb | hb
  · exact hpercent hb
  · exact hne (div_sixteen_lt b) hb
  · exact hne (mod_sixteen_lt b) hb

theorem slash_not_mem_percentEncode (t : Text) : '/' ∉ percentEncode t :=
  not_mem_percentEncode (by decide) (by decide) t

theorem space_not_mem_percentEncode (t : Text) : ' ' ∉ percentEncode t :=
  not_mem_percentEncode (by decide) (by decide) t

theorem brace_not_mem_percentEncode (t : Text) : '{' ∉ percentEncode t :=
  not_mem_percentEncode (by decide) (by decide) t

end RoutePattern.Text
