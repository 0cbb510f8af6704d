import Mathlib.Data.List.Basic
import RoutePattern.Text.Percent

/-!
# Percent decoding, position by position

Whether an escape stands at a position is seen from the three bytes there (`escapeAt?`). No two
escapes overlap, because the digits of an escape are no percent signs, so that every escape can be
replaced where it stands (`replaceEscapes`). A cut that no escape crosses can be made before or
after replacing (`replaceEscapes_append`); the reader from left to right makes one such cut after
another (`unescapeBytes_eq_replaceEscapes`), and every percent sign is behind one.
-/

namespace RoutePattern.Text

/-! ## Escapes by position -/

def lowerDigits : List UInt8 := "0123456789abcdef".toList.map Char.toUInt8

def upperDigits : List UInt8 := "0123456789ABCDEF".toList.map Char.toUInt8

def digitPlace? (b : UInt8) : Option Nat :=
  (lowerDigits.idxOf? b).or (upperDigits.idxOf? b)

def escapeAt? (bytes : List UInt8) (position : Nat) : Option UInt8 :=
  if bytes[position]? = some percentByte then do
    let high ← bytes[position + 1]?.bind digitPlace?
    let low ← bytes[position + 2]?.bind digitPlace?
    some (.ofNat (16 * high + low))
  else none

/-- An escape that starts before a position reaches over it. -/
def InEscape (bytes : List UInt8) (position : Nat) : Prop :=
  ∃ start < position, position ≤ start + 2 ∧ (escapeAt? bytes start).isSome = true

instance (bytes : List UInt8) (position : Nat) : Decidable (InEscape bytes position) :=
  inferInstanceAs (Decidable (∃ start < position, _))

/-- What stands for the byte at a position: for the percent sign of an escape the byte that the
escape stands for, nothing for its digits, and for any other byte itself. -/
def replacedAt? (bytes : List UInt8) (position : Nat) : Option UInt8 :=
  match escapeAt? bytes position with
  | some byte => some byte
  | none => if InEscape bytes position then none else bytes[position]?

/-- The bytes with every escape replaced and every other byte kept in its place. -/
def replaceEscapes (bytes : List UInt8) : List UInt8 :=
  (List.range bytes.length).filterMap (replacedAt? bytes)

theorem escapeAt?_eq_some_iff {bytes : List UInt8} {position : Nat} {byte : UInt8} :
    escapeAt? bytes position = some byte ↔
      bytes[position]? = some percentByte ∧
      ∃ high low h l, bytes[position + 1]? = some high ∧ digitPlace? high = some h ∧
        bytes[position + 2]? = some low ∧ digitPlace? low = some l ∧
        UInt8.ofNat (16 * h + l) = byte := by
  unfold escapeAt?
  constructor
  · intro h
    split at h
    · rename_i hpercent
      simp only [bind, Option.bind_eq_some_iff, Option.some.injEq] at h
      obtain ⟨h, ⟨high, hhigh, hh⟩, l, ⟨low, hlow, hl⟩, hbyte⟩ := h
      exact ⟨hpercent, high, low, h, l, hhigh, hh, hlow, hl, hbyte⟩
    · cases h
  · rintro ⟨hpercent, high, low, h, l, hhigh, hh, hlow, hl, hbyte⟩
    rw [if_pos hpercent, hhigh, hlow, Option.bind_some, Option.bind_some, hh, hl]
    exact congrArg some hbyte

/-! ## Digits -/

theorem digitPlace?_percentByte : digitPlace? percentByte = none := by decide

theorem digitPlace?_table : ∀ n < 256,
    digitPlace? (.ofNat n) = (hexValue? (.ofNat n)).map UInt8.toNat := by
  decide +kernel

theorem digitPlace?_eq (b : UInt8) : digitPlace? b = (hexValue? b).map UInt8.toNat := by
  simpa using digitPlace?_table b.toNat b.toNat_lt

theorem escapedByte?_eq_some_iff {high low byte : UInt8} :
    escapedByte? high low = some byte ↔
      ∃ h l, digitPlace? high = some h ∧ digitPlace? low = some l ∧
        UInt8.ofNat (16 * h + l) = byte := by
  have hsum : ∀ h l : UInt8, UInt8.ofNat (16 * h.toNat + l.toNat) = h * 16 + l := by
    intro h l
    have h16 : (16 : UInt8).toNat = 16 := rfl
    apply UInt8.toNat_inj.1
    simp only [UInt8.toNat_ofNat', UInt8.toNat_add, UInt8.toNat_mul, h16]
    omega
  rw [digitPlace?_eq, digitPlace?_eq, escapedByte?]
  cases hexValue? high with
  | none => simp
  | some h =>
      cases hexValue? low with
      | none => simp
      | some l => simp [← hsum]

/-! ## No two escapes overlap -/

theorem ne_percentByte_of_escapeAt? {bytes : List UInt8} {position : Nat}
    (h : (escapeAt? bytes position).isSome = true) :
    bytes[position + 1]? ≠ some percentByte ∧ bytes[position + 2]? ≠ some percentByte := by
  obtain ⟨byte, hbyte⟩ := Option.isSome_iff_exists.1 h
  obtain ⟨-, high, low, h, l, hhigh, hh, hlow, hl, -⟩ := escapeAt?_eq_some_iff.1 hbyte
  rw [hhigh, hlow]
  constructor
  · rintro ⟨⟩
    cases digitPlace?_percentByte.symm.trans hh
  · rintro ⟨⟩
    cases digitPlace?_percentByte.symm.trans hl

theorem escapeAt?_of_ne {bytes : List UInt8} {position : Nat}
    (h : bytes[position]? ≠ some percentByte) : escapeAt? bytes position = none :=
  if_neg h

theorem escapeAt?_succ_of_escapeAt? {bytes : List UInt8} {position : Nat}
    (h : (escapeAt? bytes position).isSome = true) :
    escapeAt? bytes (position + 1) = none ∧ escapeAt? bytes (position + 2) = none :=
  ⟨escapeAt?_of_ne (ne_percentByte_of_escapeAt? h).1,
    escapeAt?_of_ne (ne_percentByte_of_escapeAt? h).2⟩

/-- An escape ends where the bytes end at the latest. -/
theorem escapeAt?_of_length_le {bytes : List UInt8} {position : Nat}
    (h : bytes.length ≤ position + 2) : escapeAt? bytes position = none := by
  rw [Option.eq_none_iff_forall_ne_some]
  intro byte hbyte
  obtain ⟨-, high, low, -, -, -, -, hlow, -, -⟩ := escapeAt?_eq_some_iff.1 hbyte
  rw [List.getElem?_eq_none h] at hlow
  cases hlow

/-! ## Cuts that no escape crosses -/

/-- Every escape that starts in front of the cut ends there. -/
def Uncrossed (front back : List UInt8) : Prop :=
  ∀ start < front.length, (escapeAt? (front ++ back) start).isSome = true →
    start + 2 < front.length

section Cut

variable {front back : List UInt8} {position : Nat}

theorem escapeAt?_append_right (front back : List UInt8) (position : Nat) :
    escapeAt? (front ++ back) (front.length + position) = escapeAt? back position := by
  have hat : ∀ offset, (front ++ back)[front.length + position + offset]? =
      back[position + offset]? := by
    intro offset
    rw [Nat.add_assoc, List.getElem?_append_right (Nat.le_add_right _ _),
      Nat.add_sub_cancel_left]
  have hhere := hat 0
  rw [Nat.add_zero, Nat.add_zero] at hhere
  rw [escapeAt?, escapeAt?, hhere, hat, hat]

theorem Uncrossed.escapeAt?_left (h : Uncrossed front back) (hposition : position < front.length) :
    escapeAt? (front ++ back) position = escapeAt? front position := by
  by_cases hend : position + 2 < front.length
  · rw [escapeAt?, escapeAt?, List.getElem?_append_left hposition,
      List.getElem?_append_left (by omega), List.getElem?_append_left hend]
  · -- The escape would end behind the cut on one side and behind the bytes on the other.
    rw [escapeAt?_of_length_le (Nat.not_lt.1 hend), ← Option.not_isSome_iff_eq_none]
    exact fun hsome => hend (h position hposition hsome)

theorem Uncrossed.inEscape_left_iff (h : Uncrossed front back)
    (hposition : position < front.length) :
    InEscape (front ++ back) position ↔ InEscape front position := by
  unfold InEscape
  constructor
  · rintro ⟨start, hstart, hreach, hsome⟩
    rw [h.escapeAt?_left (Nat.lt_trans hstart hposition)] at hsome
    exact ⟨start, hstart, hreach, hsome⟩
  · rintro ⟨start, hstart, hreach, hsome⟩
    rw [← h.escapeAt?_left (Nat.lt_trans hstart hposition)] at hsome
    exact ⟨start, hstart, hreach, hsome⟩

theorem Uncrossed.inEscape_right_iff (h : Uncrossed front back) (position : Nat) :
    InEscape (front ++ back) (front.length + position) ↔ InEscape back position := by
  unfold InEscape
  constructor
  · rintro ⟨start, hstart, hreach, hsome⟩
    -- An escape that starts in front of the cut ends there too.
    have hbehind : front.length ≤ start := by
      by_contra hbefore
      have hend := h start (Nat.lt_of_not_le hbefore) hsome
      omega
    obtain ⟨offset, rfl⟩ := Nat.exists_eq_add_of_le hbehind
    rw [escapeAt?_append_right] at hsome
    exact ⟨offset, by omega, by omega, hsome⟩
  · rintro ⟨offset, hstart, hreach, hsome⟩
    rw [← escapeAt?_append_right front] at hsome
    exact ⟨front.length + offset, by omega, by omega, hsome⟩

/-- The bytes on the two sides of a cut that no escape crosses are replaced apart. -/
theorem replaceEscapes_append (h : Uncrossed front back) :
    replaceEscapes (front ++ back) = replaceEscapes front ++ replaceEscapes back := by
  have hleft : ∀ position ∈ List.range front.length,
      replacedAt? (front ++ back) position = replacedAt? front position := by
    intro position hmem
    have hposition := List.mem_range.1 hmem
    simp only [replacedAt?, h.escapeAt?_left hposition, h.inEscape_left_iff hposition,
      List.getElem?_append_left hposition]
  have hright : ∀ position,
      replacedAt? (front ++ back) (front.length + position) = replacedAt? back position := by
    intro position
    simp only [replacedAt?, escapeAt?_append_right, h.inEscape_right_iff,
      List.getElem?_append_right (Nat.le_add_right _ _), Nat.add_sub_cancel_left]
  have hback : (replacedAt? (front ++ back)) ∘ (front.length + ·) = replacedAt? back :=
    funext hright
  rw [replaceEscapes, List.length_append, List.range_add, List.filterMap_append,
    List.filterMap_map, hback, List.filterMap_congr hleft]
  rfl

end Cut

/-! ## The reader -/

theorem not_inEscape_zero (bytes : List UInt8) : ¬ InEscape bytes 0 := by
  rintro ⟨start, hstart, -⟩
  cases hstart

theorem replaceEscapes_cons {b : UInt8} {bytes : List UInt8}
    (h : escapeAt? (b :: bytes) 0 = none) :
    replaceEscapes (b :: bytes) = b :: replaceEscapes bytes := by
  have huncrossed : Uncrossed [b] bytes := by
    intro start hstart hsome
    obtain rfl : start = 0 := by simpa using hstart
    rw [List.singleton_append, h] at hsome
    cases hsome
  have hnone : escapeAt? [b] 0 = none := escapeAt?_of_length_le (Nat.le_add_left 1 1)
  have hone : replaceEscapes [b] = [b] := by
    simp [replaceEscapes, replacedAt?, hnone, not_inEscape_zero]
  rw [← List.singleton_append, replaceEscapes_append huncrossed, hone]
  rfl

theorem replaceEscapes_escape {b high low byte : UInt8} {rest : List UInt8}
    (h : escapeAt? (b :: high :: low :: rest) 0 = some byte) :
    replaceEscapes (b :: high :: low :: rest) = byte :: replaceEscapes rest := by
  have huncrossed : Uncrossed [b, high, low] rest := by
    intro start hstart hsome
    -- The digits open no escape of their own that could reach into the rest.
    have hnext := @escapeAt?_succ_of_escapeAt? (b :: high :: low :: rest) 0 (by rw [h]; rfl)
    match start, hstart with
    | 0, _ => exact Nat.le_refl 3
    | 1, _ => cases hnext.1.symm.trans (Option.some_get hsome).symm
    | 2, _ => cases hnext.2.symm.trans (Option.some_get hsome).symm
  have hstart : escapeAt? [b, high, low] 0 = some byte := by
    rw [← huncrossed.escapeAt?_left (Nat.succ_pos 2)]
    exact h
  have hone : replaceEscapes [b, high, low] = [byte] := by
    have hsome : (escapeAt? [b, high, low] 0).isSome = true := by rw [hstart]; rfl
    obtain ⟨hfirst, hsecond⟩ := escapeAt?_succ_of_escapeAt? hsome
    have hinside : ∀ position, position = 1 ∨ position = 2 → InEscape [b, high, low] position :=
      fun position hposition => ⟨0, by omega, by omega, hsome⟩
    simp [replaceEscapes, List.range_succ, replacedAt?, hstart, hfirst, hsecond, hinside]
  have happend := replaceEscapes_append huncrossed
  rw [hone] at happend
  exact happend

theorem escapeAt?_zero (high low : UInt8) (rest : List UInt8) :
    escapeAt? (percentByte :: high :: low :: rest) 0 = escapedByte? high low := by
  apply Option.ext
  intro byte
  simp [escapeAt?_eq_some_iff, escapedByte?_eq_some_iff]

/-- Reading from left to right replaces every escape where it stands. -/
theorem unescapeBytes_eq_replaceEscapes (bytes : List UInt8) :
    unescapeBytes bytes = replaceEscapes bytes := by
  fun_induction unescapeBytes bytes with
  | case1 => rfl
  | case2 b =>
      have hb : escapeAt? [b] 0 = none := escapeAt?_of_length_le (Nat.le_succ 1)
      rw [replaceEscapes_cons hb]
      rfl
  | case3 b c =>
      have hb : escapeAt? [b, c] 0 = none := escapeAt?_of_length_le (Nat.le_refl 2)
      have hc : escapeAt? [c] 0 = none := escapeAt?_of_length_le (Nat.le_succ 1)
      rw [replaceEscapes_cons hb, replaceEscapes_cons hc]
      rfl
  | case4 high low rest byte hbyte ih =>
      rw [replaceEscapes_escape ((escapeAt?_zero high low rest).trans hbyte), ih]
  | case5 high low rest hnone ih =>
      rw [replaceEscapes_cons ((escapeAt?_zero high low rest).trans hnone), ih]
  | case6 b high low rest hne ih =>
      rw [replaceEscapes_cons (escapeAt?_of_ne fun h => hne (Option.some.inj h)), ih]

/-- A percent sign is no digit, so that no escape reaches over it. -/
theorem replaceEscapes_append_percent (front back : List UInt8) :
    replaceEscapes (front ++ percentByte :: back) =
      replaceEscapes front ++ replaceEscapes (percentByte :: back) := by
  apply replaceEscapes_append
  intro start hstart hsome
  have hpercent : (front ++ percentByte :: back)[front.length]? = some percentByte := by simp
  obtain ⟨hfirst, hsecond⟩ := ne_percentByte_of_escapeAt? hsome
  by_contra hcross
  have hat : start + 1 = front.length ∨ start + 2 = front.length := by omega
  rcases hat with hat | hat
  · rw [hat] at hfirst
    exact hfirst hpercent
  · rw [hat] at hsecond
    exact hsecond hpercent

/-! ## Texts -/

theorem percentDecode_eq_iff {t u : Text} :
    percentDecode t = u ↔ utf8 u = replaceEscapes (utf8 t) ∨
      (u = t ∧ ∀ v, utf8 v ≠ replaceEscapes (utf8 t)) := by
  rw [percentDecode, unescapeBytes_eq_replaceEscapes]
  cases hread : ofUtf8? (replaceEscapes (utf8 t)) with
  | some w =>
      have hw : replaceEscapes (utf8 t) = utf8 w := ofUtf8?_eq_some_iff.1 hread
      rw [hw, Option.getD_some]
      constructor
      · rintro rfl
        exact Or.inl rfl
      · rintro (h | ⟨-, hnone⟩)
        · exact (utf8_injective h).symm
        · exact absurd rfl (hnone w)
  | none =>
      have hnone : ∀ v, utf8 v ≠ replaceEscapes (utf8 t) := by
        intro v hv
        rw [← hv, ofUtf8?_utf8] at hread
        cases hread
      rw [Option.getD_none]
      constructor
      · rintro rfl
        exact Or.inr ⟨rfl, hnone⟩
      · rintro (h | ⟨rfl, -⟩)
        · exact absurd h (hnone u)
        · rfl

/-- **Percent decoding, position by position.** The decoded text is the one whose bytes are those of
the text with its escapes replaced, and if there is none it is the text itself. A percent sign that
opens no escape is kept, and an escape is replaced, whatever stands in front of either. -/
theorem percentDecode_replaces_escapes (t : Text) :
    (∀ u, percentDecode t = u ↔ utf8 u = replaceEscapes (utf8 t) ∨
      (u = t ∧ ∀ v, utf8 v ≠ replaceEscapes (utf8 t))) ∧
    (∀ position, (escapeAt? (utf8 t) position).isSome = true →
      escapeAt? (utf8 t) (position + 1) = none ∧ escapeAt? (utf8 t) (position + 2) = none) ∧
    (∀ front back, utf8 t = front ++ percentByte :: back →
      escapeAt? (utf8 t) front.length = none →
      replaceEscapes (utf8 t) = replaceEscapes front ++ percentByte :: replaceEscapes back) ∧
    (∀ front high low back byte, utf8 t = front ++ percentByte :: high :: low :: back →
      escapeAt? (utf8 t) front.length = some byte →
      replaceEscapes (utf8 t) = replaceEscapes front ++ byte :: replaceEscapes back) := by
  refine ⟨fun u => percentDecode_eq_iff, fun _ => escapeAt?_succ_of_escapeAt?, ?_, ?_⟩
  · intro front back hbytes hnone
    rw [hbytes] at hnone ⊢
    rw [← Nat.add_zero front.length, escapeAt?_append_right] at hnone
    rw [replaceEscapes_append_percent, replaceEscapes_cons hnone]
  · intro front high low back byte hbytes hbyte
    rw [hbytes] at hbyte ⊢
    rw [← Nat.add_zero front.length, escapeAt?_append_right] at hbyte
    rw [replaceEscapes_append_percent, replaceEscapes_escape hbyte]

/-- Signs and half escapes between escapes of one character's bytes, and bytes of no text. -/
theorem percentDecode_replaces_escapes_mixed :
    percentDecode "%%41%4é%C3%a9%".toList = "%A%4éé%".toList ∧
    percentDecode "%41%FF".toList = "%41%FF".toList := by
  constructor
  · exact ((percentDecode_replaces_escapes _).1 _).2 (Or.inl (by decide))
  · refine ((percentDecode_replaces_escapes _).1 _).2 (Or.inr ⟨rfl, ?_⟩)
    have hnone : ofUtf8? (replaceEscapes (utf8 "%41%FF".toList)) = none := by decide
    intro v hv
    rw [← hv, ofUtf8?_utf8] at hnone
    cases hnone

end RoutePattern.Text
