import Mathlib.Algebra.Group.Nat.Defs
import RoutePattern.Text.Utf8

/-!
# The order of texts and of their bytes

Texts are compared character by character by code point, and their UTF-8 bytes byte by byte; a text
that comes first in the one order does so in the other (`utf8_lt_utf8`). A character is a leading
byte and bytes of six bits each. The larger of two code points has the larger leading byte, if its
encoding is longer; if it is as long, the first byte in which the two differ is the larger one, by
induction on the number of bytes (`sixBits_append_lt`).
-/

namespace RoutePattern.Text

/-! ## The bytes of a character -/

/-- A leading byte with a mark on its value, and bytes of six bits each behind it. -/
def sixBits (mark : Nat) : (count value : Nat) → List UInt8
  | 0, value => [.ofNat (value + mark)]
  | count + 1, value => sixBits mark count (value / 64) ++ [.ofNat (value % 64 + 128)]

def laterBytes (value : Nat) : Nat :=
  if value ≤ 127 then 0 else if value ≤ 2047 then 1 else if value ≤ 65535 then 2 else 3

def leadMark : Nat → Nat
  | 0 => 0
  | 1 => 192
  | 2 => 224
  | _ => 240

def leadValue (value : Nat) : Nat :=
  value / 64 ^ laterBytes value + leadMark (laterBytes value)

theorem toNat_val_lt (c : Char) : c.val.toNat < 1114112 := by
  rcases c.valid with h | ⟨-, h⟩
  · exact Nat.lt_trans h (by decide)
  · exact h

theorem utf8EncodeChar_eq_sixBits (c : Char) :
    String.utf8EncodeChar c =
      sixBits (leadMark (laterBytes c.val.toNat)) (laterBytes c.val.toNat) c.val.toNat := by
  have hmax := toNat_val_lt c
  unfold String.utf8EncodeChar laterBytes
  generalize c.val.toNat = value at hmax
  dsimp only
  split
  · rfl
  · split
    · have hlead : value / 64 % 32 = value / 64 := by omega
      rw [hlead]
      rfl
    · split
      · have hlead : value / 4096 % 16 = value / 64 / 64 := by omega
        rw [hlead]
        rfl
      · have hlead : value / 262144 % 8 = value / 64 / 64 / 64 := by omega
        have hnext : value / 4096 = value / 64 / 64 := by omega
        rw [hlead, hnext]
        rfl

/-- The leading bytes of longer encodings are larger. -/
theorem leadValue_cases {value : Nat} (h : value < 1114112) :
    (value ≤ 127 ∧ laterBytes value = 0 ∧ leadValue value < 192) ∨
    (127 < value ∧ value ≤ 2047 ∧ laterBytes value = 1 ∧
      192 ≤ leadValue value ∧ leadValue value < 224) ∨
    (2047 < value ∧ value ≤ 65535 ∧ laterBytes value = 2 ∧
      224 ≤ leadValue value ∧ leadValue value < 240) ∨
    (65535 < value ∧ laterBytes value = 3 ∧ 240 ≤ leadValue value ∧ leadValue value < 256) := by
  by_cases hone : value ≤ 127
  · have hcount : laterBytes value = 0 := if_pos hone
    have hlead : leadValue value = value := by
      rw [leadValue, hcount, Nat.pow_zero, Nat.div_one]
      rfl
    omega
  · by_cases htwo : value ≤ 2047
    · have hcount : laterBytes value = 1 := by rw [laterBytes, if_neg hone, if_pos htwo]
      have hlead : leadValue value = value / 64 + 192 := by rw [leadValue, hcount]; rfl
      omega
    · by_cases hthree : value ≤ 65535
      · have hcount : laterBytes value = 2 := by
          rw [laterBytes, if_neg hone, if_neg htwo, if_pos hthree]
        have hlead : leadValue value = value / 4096 + 224 := by rw [leadValue, hcount]; rfl
        omega
      · have hcount : laterBytes value = 3 := by
          rw [laterBytes, if_neg hone, if_neg htwo, if_neg hthree]
        have hlead : leadValue value = value / 262144 + 240 := by rw [leadValue, hcount]; rfl
        omega

/-! ## Two characters -/

theorem ofNat_lt_ofNat {m n : Nat} (h : m < n) (hn : n < 256) : UInt8.ofNat m < .ofNat n := by
  rw [UInt8.lt_iff_toNat_lt, UInt8.toNat_ofNat', UInt8.toNat_ofNat', Nat.mod_eq_of_lt hn,
    Nat.mod_eq_of_lt (Nat.lt_trans h hn)]
  exact h

theorem exists_sixBits_eq_cons (mark count value : Nat) :
    ∃ later, sixBits mark count value = .ofNat (value / 64 ^ count + mark) :: later := by
  induction count generalizing value with
  | zero => exact ⟨[], by rw [sixBits, Nat.pow_zero, Nat.div_one]⟩
  | succ count ih =>
      obtain ⟨later, hlater⟩ := ih (value / 64)
      refine ⟨later ++ [.ofNat (value % 64 + 128)], ?_⟩
      rw [sixBits, hlater, Nat.div_div_eq_div_mul, ← Nat.pow_succ']
      rfl

/-- Encodings of one length are ordered as their code points are. -/
theorem sixBits_append_lt {mark count v w : Nat} (h : v < w)
    (hbyte : w / 64 ^ count + mark < 256) (s t : List UInt8) :
    sixBits mark count v ++ s < sixBits mark count w ++ t := by
  -- The induction is on the number of bytes; the last six bits count if all before them agree.
  induction count generalizing v w s t with
  | zero =>
      rw [Nat.pow_zero, Nat.div_one] at hbyte
      have hlead : UInt8.ofNat (v + mark) < .ofNat (w + mark) := ofNat_lt_ofNat (by omega) hbyte
      exact List.cons_lt_cons_iff.2 (Or.inl hlead)
  | succ count ih =>
      rw [sixBits, sixBits, List.append_assoc, List.append_assoc]
      by_cases hhigh : v / 64 < w / 64
      · rw [Nat.pow_succ', ← Nat.div_div_eq_div_mul] at hbyte
        exact ih hhigh hbyte _ _
      · have heq : v / 64 = w / 64 := by omega
        have hlow : UInt8.ofNat (v % 64 + 128) < .ofNat (w % 64 + 128) :=
          ofNat_lt_ofNat (by omega) (by omega)
        rw [heq]
        exact List.append_left_lt (List.cons_lt_cons_iff.2 (Or.inl hlow))

theorem utf8EncodeChar_append_lt {c d : Char} (h : c < d) (s t : List UInt8) :
    String.utf8EncodeChar c ++ s < String.utf8EncodeChar d ++ t := by
  have hlt : c.val.toNat < d.val.toNat := UInt32.lt_iff_toNat_lt.1 h
  have hc := leadValue_cases (toNat_val_lt c)
  have hd := leadValue_cases (toNat_val_lt d)
  have hbyte : leadValue d.val.toNat < 256 := by omega
  rw [utf8EncodeChar_eq_sixBits, utf8EncodeChar_eq_sixBits]
  by_cases hlength : laterBytes c.val.toNat = laterBytes d.val.toNat
  · rw [hlength]
    exact sixBits_append_lt hlt hbyte s t
  · have hlead : leadValue c.val.toNat < leadValue d.val.toNat := by omega
    obtain ⟨cs, hcs⟩ := exists_sixBits_eq_cons (leadMark (laterBytes c.val.toNat))
      (laterBytes c.val.toNat) c.val.toNat
    obtain ⟨ds, hds⟩ := exists_sixBits_eq_cons (leadMark (laterBytes d.val.toNat))
      (laterBytes d.val.toNat) d.val.toNat
    rw [hcs, hds]
    exact List.cons_lt_cons_iff.2 (Or.inl (ofNat_lt_ofNat hlead hbyte))

/-! ## Two texts -/

theorem utf8_lt_utf8 {s t : Text} (h : s < t) : utf8 s < utf8 t := by
  induction s generalizing t with
  | nil =>
      cases t with
      | nil => exact absurd h (List.lt_irrefl [])
      | cons d t =>
          obtain ⟨ds, hds⟩ := exists_sixBits_eq_cons (leadMark (laterBytes d.val.toNat))
            (laterBytes d.val.toNat) d.val.toNat
          rw [utf8_cons, utf8EncodeChar_eq_sixBits, hds]
          exact List.nil_lt_cons _ _
  | cons c s ih =>
      cases t with
      | nil => exact absurd h (List.not_lt_nil _)
      | cons d t =>
          rw [utf8_cons, utf8_cons]
          rcases List.cons_lt_cons_iff.1 h with hlt | ⟨rfl, hlt⟩
          · exact utf8EncodeChar_append_lt hlt _ _
          · exact List.append_left_lt (ih hlt)

end RoutePattern.Text
