import Mathlib.Data.List.Basic
import RoutePattern.Json
import RoutePattern.Reader
import RoutePattern.Text.Digits

/-!
# Reading JSON

A reader of JSON texts, with space between all parts, every escape of a string, and characters
beyond the first plane as pairs of UTF-16 units. It refuses what JSON refuses: controls in a string,
units without their pair, zeros in front of a number, commas without an item, and anything behind
the value. Numbers are natural, as in `Json`; a text with another number is refused as well, so that
some JSON is not read, but nothing is read otherwise than JSON has it.

Strings and numbers are read back from what is printed of them, a string character by character
(`readString_printString`) and a number in front of a text that does not go on with one
(`readNumber_ofNat`).
-/

namespace RoutePattern.Json

/-! ## Strings -/

def isSpace (c : Char) : Bool :=
  c == ' ' || c == '\t' || c == '\n' || c == '\r'

def sign (c : Char) : Reader Text := fun t =>
  Reader.exactly [c] (t.dropWhile isSpace)

/-- A unit of UTF-16 in four hexadecimal digits. -/
def codeUnit : Reader Nat := fun t => do
  let (digits, t) ← Reader.times 4 Text.isHexDigit t
  some (Text.numberOf 16 digits, t)

/-- The character of a pair of units, if the first is a high and the second a low surrogate. -/
def pairedChar? (high low : Nat) : Option Char :=
  if 0xD800 ≤ high ∧ high < 0xDC00 ∧ 0xDC00 ≤ low ∧ low < 0xE000 then
    some (Char.ofNat (0x10000 + (high - 0xD800) * 0x400 + (low - 0xDC00)))
  else none

/-- The character of a unit, or of a unit and the escaped one after it. -/
def numberedChar : Reader Char := fun t => do
  let (unit, t) ← codeUnit t
  if unit.isValidChar then some (Char.ofNat unit, t)
  else do
    let (_, t) ← Reader.exactly ['\\', 'u'] t
    let (low, t) ← codeUnit t
    (pairedChar? unit low).map fun c => (c, t)

/-- The character that an escape stands for, after the backslash. -/
def escapedChar : Reader Char
  | [] => none
  | c :: t =>
    if c = '\x22' || c = '\\' || c = '/' then some (c, t)
    else if c = 'b' then some ('\x08', t)
    else if c = 'f' then some ('\x0C', t)
    else if c = 'n' then some ('\n', t)
    else if c = 'r' then some ('\r', t)
    else if c = 't' then some ('\t', t)
    else if c = 'u' then numberedChar t
    else none

def readChar : Reader Char
  | [] => none
  | c :: t =>
    if c = '\\' then escapedChar t
    else if c = '\x22' || c.toNat < 0x20 then none
    else some (c, t)

def readString : Reader Text := fun t => do
  let (_, t) ← Reader.exactly ['\x22'] t
  let (chars, t) := Reader.many readChar t
  let (_, t) ← Reader.exactly ['\x22'] t
  some (chars, t)

/-! ## Values -/

def readNumber : Reader Nat := fun t =>
  let digits := t.takeWhile Char.isDigit
  if digits = ['0'] ∨ (digits ≠ [] ∧ digits.head? ≠ some '0') then
    some (Text.numberOf 10 digits, t.dropWhile Char.isDigit)
  else none

def readWord (word : Text) (json : Json) : Reader Json := fun t =>
  (Text.dropPrefix? word t).map fun left => (json, left)

section Items

variable {α : Type}

def laterItem (item : Reader α) : Reader α := fun t => do
  let (_, t) ← sign ',' t
  item t

/-- Items with commas between them, up to a closing sign. -/
def itemsUntil (close : Char) (item : Reader α) : Reader (List α) := fun t =>
  match sign close t with
  | some (_, t) => some ([], t)
  | none => do
    let (first, t) ← item t
    let (later, t) := Reader.many (laterItem item) t
    let (_, t) ← sign close t
    some (first :: later, t)

end Items

def readMember (value : Reader Json) : Reader (Text × Json) := fun t => do
  let (name, t) ← readString (t.dropWhile isSpace)
  let (_, t) ← sign ':' t
  let (json, t) ← value t
  some ((name, json), t)

/-- A value of at most `depth` levels and the space before it. -/
def readValue : (depth : Nat) → Reader Json
  | 0, _ => none
  | depth + 1, t =>
    match t.dropWhile isSpace with
    | [] => none
    | c :: t =>
      if c = '[' then
        (itemsUntil ']' (readValue depth) t).map fun (items, t) => (.array items, t)
      else if c = '{' then
        (itemsUntil '}' (readMember (readValue depth)) t).map fun (members, t) =>
          (.object members, t)
      else if c = '\x22' then (readString (c :: t)).map fun (s, t) => (.string s, t)
      else if c.isDigit then (readNumber (c :: t)).map fun (n, t) => (.number n, t)
      else
        ((readWord "null".toList .null).orElse ((readWord "true".toList (.bool true)).orElse
          (readWord "false".toList (.bool false)))) (c :: t)

/-- The value of a whole text. It has no more levels than the text has characters. -/
def read? (t : Text) : Option Json := do
  let (json, t) ← readValue t.length t
  if t.all isSpace then some json else none

example : read? "\t[ \x22\\uD83d\\ude00\\/\\u0041\x22 ,true, [ ] ,10 ]\r\n".toList =
    some (.array [.string ['😀', '/', 'A'], .bool true, .array [], .number 10]) := rfl

example : read? "[1,]".toList = none ∧ read? "01".toList = none ∧
    read? "\x22\\uD83d\x22".toList = none ∧ read? "null null".toList = none :=
  ⟨rfl, rfl, rfl, rfl⟩

/-! ## Strings are read back -/

theorem hexEscape_table : ∀ n < 32,
    Text.isHexDigit (Nat.digitChar (n / 16)) = true ∧
    Text.isHexDigit (Nat.digitChar (n % 16)) = true ∧
    Text.numberOf 16 ['0', '0', Nat.digitChar (n / 16), Nat.digitChar (n % 16)] = n := by
  decide

theorem numberedChar_control {n : Nat} (h : n < 0x20) (t : Text) :
    numberedChar ('0' :: '0' :: Nat.digitChar (n / 16) :: Nat.digitChar (n % 16) :: t) =
      some (Char.ofNat n, t) := by
  obtain ⟨hhigh, hlow, hnumber⟩ := hexEscape_table n h
  have hvalid : n.isValidChar := Or.inl (by omega)
  have hzero : Text.isHexDigit '0' = true := by decide
  simp [numberedChar, codeUnit, Reader.times, hhigh, hlow, hnumber, hzero, hvalid]

theorem readChar_stringChar (c : Char) (t : Text) :
    readChar (stringChar c ++ t) = some (c, t) := by
  fun_cases stringChar c with
  | case1 hquote =>
      have hescaped : escapedChar (c :: t) = some (c, t) := by
        rw [escapedChar, if_pos (by simp [hquote])]
      exact hescaped
  | case2 _ hc =>
      subst hc
      rfl
  | case3 _ _ hc =>
      subst hc
      rfl
  | case4 _ _ _ hc =>
      subst hc
      rfl
  | case5 _ _ _ _ hc =>
      subst hc
      rfl
  | case6 _ _ _ _ _ hc =>
      subst hc
      rfl
  | case7 hquote _ _ _ _ _ hcontrol =>
      have hnumbered := numberedChar_control hcontrol t
      rw [Char.ofNat_toNat] at hnumbered
      exact hnumbered
  | case8 hquote _ _ _ _ _ hcontrol =>
      have hplain : c ≠ '\x22' ∧ c ≠ '\\' := by simpa using hquote
      rw [List.singleton_append, readChar, if_neg hplain.2, if_neg (by simp [hplain.1, hcontrol])]

theorem stringChar_ne_nil (c : Char) : stringChar c ≠ [] := by
  fun_cases stringChar c <;> simp

theorem readString_printString (s t : Text) :
    readString (printString s ++ t) = some (s, t) := by
  have hmany : Reader.many readChar (s.flatMap stringChar ++ '\x22' :: t) = (s, '\x22' :: t) :=
    @Reader.many_flatMap _ readChar stringChar (fun _ => True) s ('\x22' :: t)
      (fun c _ t _ => readChar_stringChar c t) (fun c _ => ⟨stringChar_ne_nil c, fun _ => trivial⟩)
      trivial rfl
  rw [printString, List.cons_append, List.append_assoc, List.singleton_append]
  simp [readString, Reader.exactly, Text.dropPrefix?, hmany]

/-! ## Numbers are read back -/

/-- A text that does not go on with a number. -/
def StopsNumber (t : Text) : Prop :=
  ∀ c, t.head? = some c → c.isDigit = false

theorem stopsNumber_cons {c : Char} (h : c.isDigit = false) (t : Text) : StopsNumber (c :: t) := by
  rintro d ⟨⟩
  exact h

theorem isDigit_of_mem_ofNat {n : Nat} {c : Char} (h : c ∈ Text.ofNat n) : c.isDigit = true :=
  Nat.isDigit_of_mem_toDigits (by decide) (by decide) h

theorem exists_ofNat_eq_cons (n : Nat) : ∃ c s, Text.ofNat n = c :: s ∧ c.isDigit = true := by
  have hne : Text.ofNat n ≠ [] := Nat.toDigits_ne_nil
  obtain ⟨c, s, hdigits⟩ := List.exists_cons_of_ne_nil hne
  refine ⟨c, s, hdigits, isDigit_of_mem_ofNat (?_ : c ∈ Text.ofNat n)⟩
  rw [hdigits]
  exact List.mem_cons_self

theorem numberOf_ofNat (n : Nat) : Text.numberOf 10 (Text.ofNat n) = n := by
  have hstep : ∀ (m : Nat), ∀ c ∈ Text.ofNat n,
      m * 10 + Text.digitValue c = 10 * m + (c.toNat - '0'.toNat) := by
    intro m c hc
    rw [Text.digitValue, if_pos (isDigit_of_mem_ofNat hc), Nat.mul_comm]
  rw [Text.numberOf, List.foldl_ext _ _ 0 hstep]
  exact Nat.ofDigitChars_ten_toDigits

theorem head?_ofNat_ne_zero {n : Nat} (h : n ≠ 0) : (Text.ofNat n).head? ≠ some '0' := by
  induction n using Nat.strongRecOn with
  | ind n ih =>
      rw [Text.ofNat, Nat.toDigits_eq_if (by decide)]
      split
      · simpa using h
      · rename_i hlarge
        rw [List.head?_append_of_ne_nil _ Nat.toDigits_ne_nil]
        exact ih (n / 10) (by omega) (by omega)

theorem readNumber_ofNat (n : Nat) {t : Text} (h : StopsNumber t) :
    readNumber (Text.ofNat n ++ t) = some (n, t) := by
  have hdigit : ∀ c ∈ Text.ofNat n, c.isDigit = true := fun _ => isDigit_of_mem_ofNat
  have hstop : t.takeWhile Char.isDigit = [] ∧ t.dropWhile Char.isDigit = t := by
    cases t with
    | nil => exact ⟨rfl, rfl⟩
    | cons c t =>
        have hc : ¬ c.isDigit = true := by simp [h c rfl]
        exact ⟨List.takeWhile_cons_of_neg hc, List.dropWhile_cons_of_neg hc⟩
  have hzeros : Text.ofNat n = ['0'] ∨
      (Text.ofNat n ≠ [] ∧ (Text.ofNat n).head? ≠ some '0') := by
    by_cases hn : n = 0
    · subst hn
      exact Or.inl rfl
    · exact Or.inr ⟨Nat.toDigits_ne_nil, head?_ofNat_ne_zero hn⟩
  rw [readNumber, List.takeWhile_append_of_pos hdigit, List.dropWhile_append_of_pos hdigit,
    hstop.1, hstop.2, List.append_nil, if_pos hzeros, numberOf_ofNat]

end RoutePattern.Json
