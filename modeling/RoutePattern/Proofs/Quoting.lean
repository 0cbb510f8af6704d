import RoutePattern.Reader
import RoutePattern.Text.Digits
import RoutePattern.Text.Quoted

/-!
# Quoted texts are read back

A reader of quoted texts, and the proof that it reads back what `quoted` writes: each character in
front of anything that may follow it (`readQuotedChar_quotedChar`), where the brace that closes a
number keeps its digits apart from digits behind it, and so the whole text (`readQuoted?_quoted`).
Two texts therefore are never quoted alike, and a quoted text stands on one line.
-/

namespace RoutePattern.Text

/-! ## Hexadecimal numbers -/

theorem hexDigit_table : ∀ n < 16,
    isHexDigit (Nat.digitChar n) = true ∧ digitValue (Nat.digitChar n) = n := by
  decide

theorem numberOf_concat (base : Nat) (digits : Text) (c : Char) :
    numberOf base (digits ++ [c]) = numberOf base digits * base + digitValue c := by
  rw [numberOf, List.foldl_append]
  rfl

/-- A number in base sixteen is written in hexadecimal digits, which stand for it. -/
theorem toDigits_sixteen (n : Nat) :
    (∀ c ∈ Nat.toDigits 16 n, isHexDigit c = true) ∧ numberOf 16 (Nat.toDigits 16 n) = n := by
  induction n using Nat.strongRecOn with
  | ind n ih =>
      rw [Nat.toDigits_eq_if (by decide)]
      split
      · rename_i hsmall
        obtain ⟨hdigit, hvalue⟩ := hexDigit_table n hsmall
        refine ⟨List.forall_mem_singleton.2 hdigit, ?_⟩
        rw [numberOf, List.foldl_cons, hvalue, Nat.zero_mul, Nat.zero_add]
        rfl
      · obtain ⟨hdigits, hnumber⟩ := ih (n / 16) (by omega)
        obtain ⟨hdigit, hvalue⟩ := hexDigit_table (n % 16) (Nat.mod_lt n (by decide))
        refine ⟨List.forall_mem_append.2 ⟨hdigits, List.forall_mem_singleton.2 hdigit⟩, ?_⟩
        rw [numberOf_concat, hnumber, hvalue]
        exact Nat.div_add_mod' n 16

/-! ## A reader -/

def readNumbered : Reader Char := fun t => do
  let (_, t) ← Reader.exactly ['{'] t
  let (_, left) ← Reader.exactly ['}'] (t.dropWhile isHexDigit)
  some (Char.ofNat (numberOf 16 (t.takeWhile isHexDigit)), left)

/-- The character that an escape stands for, after the backslash. -/
def readEscaped : Reader Char
  | [] => none
  | c :: t =>
    if c = '\x22' || c = '\\' then some (c, t)
    else if c = '0' then some ('\x00', t)
    else if c = 't' then some ('\t', t)
    else if c = 'r' then some ('\r', t)
    else if c = 'n' then some ('\n', t)
    else if c = 'u' then readNumbered t
    else none

def readQuotedChar : Reader Char
  | [] => none
  | c :: t =>
    if c = '\\' then readEscaped t
    else if c = '\x22' then none
    else some (c, t)

/-- The text that stands in quotes, if nothing stands around them. -/
def readQuoted? (t : Text) : Option Text := do
  let (_, t) ← Reader.exactly ['\x22'] t
  let (chars, t) := Reader.many readQuotedChar t
  if t = ['\x22'] then some chars else none

/-! ## Reading back -/

theorem readNumbered_braced (c : Char) (t : Text) :
    readNumbered ('{' :: (Nat.toDigits 16 c.toNat ++ '}' :: t)) = some (c, t) := by
  obtain ⟨hdigits, hnumber⟩ := toDigits_sixteen c.toNat
  have hbrace : ¬ isHexDigit '}' = true := by decide
  have htake : (Nat.toDigits 16 c.toNat ++ '}' :: t).takeWhile isHexDigit =
      Nat.toDigits 16 c.toNat := by
    rw [List.takeWhile_append_of_pos hdigits, List.takeWhile_cons_of_neg hbrace, List.append_nil]
  have hdrop : (Nat.toDigits 16 c.toNat ++ '}' :: t).dropWhile isHexDigit = '}' :: t := by
    rw [List.dropWhile_append_of_pos hdigits, List.dropWhile_cons_of_neg hbrace]
  simp [readNumbered, Reader.exactly, dropPrefix?, htake, hdrop, hnumber]

/-- Every character is read back, whatever stands behind it. -/
theorem readQuotedChar_quotedChar (c : Char) (t : Text) :
    readQuotedChar (quotedChar c ++ t) = some (c, t) := by
  fun_cases quotedChar c with
  | case1 hc | case2 _ hc | case3 _ _ hc | case4 _ _ _ hc =>
      subst hc
      rfl
  | case5 _ _ _ _ hquote =>
      have hescaped : readEscaped (c :: t) = some (c, t) := if_pos hquote
      exact hescaped
  | case6 =>
      have hnumbered := readNumbered_braced c t
      rw [numbered, List.cons_append, List.cons_append, List.cons_append, List.append_assoc]
      exact hnumbered
  | case7 _ _ _ _ hquote =>
      have hplain : c ≠ '\x22' ∧ c ≠ '\\' := by simpa using hquote
      rw [List.singleton_append, readQuotedChar, if_neg hplain.2, if_neg hplain.1]

theorem quotedChar_ne_nil (c : Char) : quotedChar c ≠ [] := by
  fun_cases quotedChar c <;> simp [numbered]

/-- A text is read back from its quotes. -/
theorem readQuoted?_quoted (t : Text) : readQuoted? (quoted t) = some t := by
  have hmany : Reader.many readQuotedChar (t.flatMap quotedChar ++ ['\x22']) = (t, ['\x22']) :=
    @Reader.many_flatMap _ readQuotedChar quotedChar (fun _ => True) t ['\x22']
      (fun c _ t _ => readQuotedChar_quotedChar c t)
      (fun c _ => ⟨quotedChar_ne_nil c, fun _ => trivial⟩) trivial rfl
  simp [readQuoted?, quoted, Reader.exactly, dropPrefix?, hmany]

/-- A quoted text that looks like escapes is no other text. -/
example : readQuoted? (quoted "\\u{41}\t\x22é".toList) = some "\\u{41}\t\x22é".toList :=
  readQuoted?_quoted _

/-! ## Plain characters -/

theorem quotedChar_table : ∀ n < 127, 32 ≤ n → quotedChar (Char.ofNat n) =
    if Char.ofNat n = '\x22' ∨ Char.ofNat n = '\\' then ['\\', Char.ofNat n]
    else [Char.ofNat n] := by
  decide +kernel

def IsPlain (t : Text) : Prop :=
  ∀ c ∈ t, ' ' ≤ c ∧ c ≤ '~'

/-- Of a plain text, only the quotes and the backslashes are escaped. -/
theorem quoted_of_isPlain {t : Text} (h : IsPlain t) :
    quoted t = '\x22' ::
      (t.flatMap (fun c => if c = '\x22' ∨ c = '\\' then ['\\', c] else [c]) ++ ['\x22']) := by
  have hchar : ∀ c ∈ t, quotedChar c = if c = '\x22' ∨ c = '\\' then ['\\', c] else [c] := by
    intro c hc
    have hlow : 32 ≤ c.toNat := (h c hc).1
    have hhigh : c.toNat ≤ 126 := (h c hc).2
    have htable := quotedChar_table c.toNat (by omega) hlow
    rw [Char.ofNat_toNat] at htable
    exact htable
  have hflat : t.flatMap quotedChar =
      t.flatMap fun c => if c = '\x22' ∨ c = '\\' then ['\\', c] else [c] := by
    rw [List.flatMap_def, List.map_congr_left hchar, List.flatMap_def]
  rw [quoted, hflat]

/-! ## One line -/

theorem newline_not_mem_quotedChar (c : Char) : '\n' ∉ quotedChar c := by
  fun_cases quotedChar c with
  | case1 | case2 | case3 | case4 => decide
  | case5 _ _ _ hnewline => simp [Ne.symm hnewline]
  | case6 =>
      have hdigits : '\n' ∉ Nat.toDigits 16 c.toNat := by
        intro hmem
        exact absurd ((toDigits_sixteen c.toNat).1 '\n' hmem) (by decide)
      simp [numbered, hdigits]
  | case7 _ _ _ hnewline => simp [Ne.symm hnewline]

/-- A quoted text stands on one line. -/
theorem newline_not_mem_quoted (t : Text) : '\n' ∉ quoted t := by
  have hchars : '\n' ∉ t.flatMap quotedChar := by
    intro hmem
    obtain ⟨c, -, hc⟩ := List.mem_flatMap.1 hmem
    exact newline_not_mem_quotedChar c hc
  simp [quoted, hchars]

end RoutePattern.Text
