import RoutePattern.Proofs.Classification

/-!
# Texts that are escaped in part

Any characters of a text may be written as escapes, with digits in either case, and the others may
stand as they are (`escapeWith`). As long as no percent sign stands as it is, every escape that is
read is one that was written: the bytes of a character that stands are no percent signs, and those
of an escaped one are read back. The text therefore comes back (`percentDecode_escapeWith`), and one
escape is enough to keep it from being syntax (`escapeWith_read_back`).
-/

namespace RoutePattern

namespace Text

/-! ## Choosing what is escaped -/

inductive CharStyle where
  | plain
  /-- With every byte as an escape, the cases of the digits chosen for each byte. -/
  | escaped (cases : Nat → DigitCase × DigitCase)

def CharStyle.write : CharStyle → Char → Text
  | .plain, c => [c]
  | .escaped cases, c => escapeBytesIn cases (String.utf8EncodeChar c)

/-- The text with each character in the style that is chosen for its position. -/
def escapeWith (style : Nat → CharStyle) (t : Text) : Text :=
  (t.mapIdx fun position c => (style position).write c).flatten

theorem escapeWith_cons (style : Nat → CharStyle) (c : Char) (t : Text) :
    escapeWith style (c :: t) =
      (style 0).write c ++ escapeWith (fun position => style (position + 1)) t := by
  rw [escapeWith, List.mapIdx_cons, List.flatten_cons]
  rfl

/-! ## Reading what stands as it is -/

theorem unescapeBytes_cons_of_ne {b : UInt8} (h : b ≠ percentByte) (rest : List UInt8) :
    unescapeBytes (b :: rest) = b :: unescapeBytes rest := by
  cases rest with
  | nil => rfl
  | cons high rest =>
      cases rest with
      | nil => rfl
      | cons low rest => rw [unescapeBytes, if_neg h]

theorem unescapeBytes_append_of_not_mem {bytes : List UInt8} (h : percentByte ∉ bytes)
    (rest : List UInt8) : unescapeBytes (bytes ++ rest) = bytes ++ unescapeBytes rest := by
  induction bytes with
  | nil => rfl
  | cons b bytes ih =>
      obtain ⟨hb, hbytes⟩ := not_or.1 (mt List.mem_cons.2 h)
      rw [List.cons_append, unescapeBytes_cons_of_ne (Ne.symm hb), ih hbytes, List.cons_append]

theorem percentByte_not_mem_utf8EncodeChar {c : Char} (h : c ≠ '%') :
    percentByte ∉ String.utf8EncodeChar c := by
  intro hmem
  rcases toNat_of_mem_utf8EncodeChar hmem with hcode | hhigh
  · have hval : '%'.val.toNat = c.val.toNat := hcode
    exact h (Char.ext (UInt32.toNat_inj.1 hval)).symm
  · exact absurd hhigh (by decide)

theorem unescapeBytes_write {style : CharStyle} {c : Char} (h : c = '%' → style ≠ .plain)
    (rest : List UInt8) :
    unescapeBytes (utf8 (style.write c) ++ rest) =
      String.utf8EncodeChar c ++ unescapeBytes rest := by
  cases style with
  | plain =>
      have hc : c ≠ '%' := fun heq => h heq rfl
      have hutf8 : utf8 (CharStyle.plain.write c) = String.utf8EncodeChar c := List.append_nil _
      rw [hutf8]
      exact unescapeBytes_append_of_not_mem (percentByte_not_mem_utf8EncodeChar hc) rest
  | escaped cases => exact unescapeBytes_escapes cases (String.utf8EncodeChar c) rest

/-! ## The whole text -/

variable {style : Nat → CharStyle} {t : Text}

theorem unescapeBytes_escapeWith
    (h : ∀ position, t[position]? = some '%' → style position ≠ .plain) :
    unescapeBytes (utf8 (escapeWith style t)) = utf8 t := by
  induction t generalizing style with
  | nil => rfl
  | cons c t ih =>
      have hc : c = '%' → style 0 ≠ .plain := by
        rintro rfl
        exact h 0 rfl
      rw [escapeWith_cons, utf8_append, unescapeBytes_write hc, utf8_cons]
      rw [ih fun position hposition => h (position + 1) hposition]

theorem percentDecode_escapeWith
    (h : ∀ position, t[position]? = some '%' → style position ≠ .plain) :
    percentDecode (escapeWith style t) = t := by
  rw [percentDecode, unescapeBytes_escapeWith h, ofUtf8?_utf8]
  rfl

theorem percent_mem_write {style : CharStyle} (h : style ≠ .plain) (c : Char) :
    '%' ∈ style.write c := by
  cases style with
  | plain => exact absurd rfl h
  | escaped cases =>
      obtain ⟨b, bytes, hbytes⟩ := List.exists_cons_of_ne_nil (@String.utf8EncodeChar_ne_nil c)
      show '%' ∈ escapeBytesIn cases (String.utf8EncodeChar c)
      rw [hbytes, escapeBytesIn_cons]
      exact List.mem_append_left _ List.mem_cons_self

theorem percent_mem_escapeWith {position : Nat} (hposition : position < t.length)
    (hescaped : style position ≠ .plain) : '%' ∈ escapeWith style t := by
  refine List.mem_flatten.2 ⟨(style position).write t[position], ?_, ?_⟩
  · exact List.mem_mapIdx.2 ⟨position, hposition, rfl⟩
  · exact percent_mem_write hescaped _

end Text

/-- **Decoding undoes every escaping.** If no percent sign stands as it is, then a text is read back
from its characters in whatever styles they are written, and one escape among them makes the text a
literal, even if it looks like an anchor or a wildcard. -/
theorem Segment.escapeWith_read_back (t : Text) (style : Nat → Text.CharStyle)
    (h : ∀ position, t[position]? = some '%' → style position ≠ .plain) :
    Text.percentDecode (Text.escapeWith style t) = t ∧
    ((∃ position < t.length, style position ≠ .plain) →
      Segment.ofSource (Text.escapeWith style t) = .literal t) := by
  have hdecode := Text.percentDecode_escapeWith h
  refine ⟨hdecode, ?_⟩
  rintro ⟨position, hposition, hescaped⟩
  rw [ofSource_of_percent (Text.percent_mem_escapeWith hposition hescaped), hdecode]

/-- Every character but the third one is escaped, the digits of a byte in different cases. -/
def Text.allButThird (position : Nat) : Text.CharStyle :=
  if position = 2 then .plain
  else .escaped fun byte => if byte = 0 then (.upper, .lower) else (.lower, .upper)

theorem Segment.escapeWith_read_back_mixed :
    Text.percentDecode "%C3%a9%25é".toList = "é%é".toList ∧
    Segment.ofSource "%7b%24\x7d".toList = .literal "{$}".toList := by
  have hpercent : ∀ position, "é%é".toList[position]? = some '%' →
      Text.allButThird position ≠ .plain := by
    intro position hposition hplain
    by_cases hthird : position = 2
    · rw [hthird] at hposition
      exact absurd hposition (by decide)
    · rw [Text.allButThird, if_neg hthird] at hplain
      cases hplain
  have hnone : ∀ position, "{$}".toList[position]? = some '%' →
      Text.allButThird position ≠ .plain := by
    intro position hposition
    exact absurd (List.mem_of_getElem? hposition) (by decide)
  have hmixed : Text.escapeWith Text.allButThird "é%é".toList = "%C3%a9%25é".toList := by decide
  have hanchor : Text.escapeWith Text.allButThird "{$}".toList = "%7b%24\x7d".toList := by decide
  rw [← hmixed, ← hanchor]
  refine ⟨(escapeWith_read_back _ Text.allButThird hpercent).1, ?_⟩
  exact (escapeWith_read_back _ Text.allButThird hnone).2 ⟨0, by decide, by rintro ⟨⟩⟩

end RoutePattern
