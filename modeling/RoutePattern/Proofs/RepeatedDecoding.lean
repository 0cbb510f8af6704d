import Mathlib.Logic.Function.Iterate
import RoutePattern.Proofs.Decoding

/-!
# Decoding again and again

Decoding may make new escapes: `%2541` becomes `%41`, which becomes `A`. It is therefore not
idempotent, but it settles. Every escape that is read makes the text two bytes shorter
(`length_unescapeBytes`), and a text stays as it is exactly if it holds no escape or its escapes
make no text (`Settled`). Until then every round costs at least two bytes, so that there are at most
half as many rounds as bytes (`exists_settled_iterate`).
-/

namespace RoutePattern.Text

/-! ## Counting escapes -/

def escapeCount (bytes : List UInt8) : Nat :=
  (List.range bytes.length).countP fun position => (escapeAt? bytes position).isSome

/-- The text holds no escape, or replacing its escapes makes no text. -/
def Settled (t : Text) : Prop :=
  (∀ position, escapeAt? (utf8 t) position = none) ∨ ∀ u, utf8 u ≠ replaceEscapes (utf8 t)

theorem escapeAt?_cons_succ (b : UInt8) (bytes : List UInt8) (position : Nat) :
    escapeAt? (b :: bytes) (position + 1) = escapeAt? bytes position := by
  rw [← escapeAt?_append_right [b] bytes position, Nat.add_comm]
  rfl

theorem escapeCount_cons (b : UInt8) (bytes : List UInt8) :
    escapeCount (b :: bytes) =
      escapeCount bytes + if (escapeAt? (b :: bytes) 0).isSome then 1 else 0 := by
  have hlater : (fun position => (escapeAt? (b :: bytes) position).isSome) ∘ Nat.succ =
      fun position => (escapeAt? bytes position).isSome :=
    funext fun position => congrArg Option.isSome (escapeAt?_cons_succ b bytes position)
  rw [escapeCount, List.length_cons, List.range_succ_eq_map, List.countP_cons, List.countP_map,
    hlater]
  rfl

theorem escapeCount_cons_of_none {b : UInt8} {bytes : List UInt8}
    (h : escapeAt? (b :: bytes) 0 = none) : escapeCount (b :: bytes) = escapeCount bytes := by
  rw [escapeCount_cons, h]
  rfl

theorem escapeCount_escape {high low byte : UInt8} (h : escapedByte? high low = some byte)
    (rest : List UInt8) :
    escapeCount (percentByte :: high :: low :: rest) = escapeCount rest + 1 := by
  have hsome : (escapeAt? (percentByte :: high :: low :: rest) 0).isSome = true := by
    rw [escapeAt?_zero, h]
    rfl
  -- The digits of the escape open none.
  obtain ⟨hfirst, hsecond⟩ := escapeAt?_succ_of_escapeAt? hsome
  rw [escapeAt?_cons_succ] at hfirst
  rw [escapeAt?_cons_succ, escapeAt?_cons_succ] at hsecond
  rw [escapeCount_cons, if_pos hsome, escapeCount_cons_of_none hfirst,
    escapeCount_cons_of_none hsecond]

theorem escapeCount_eq_zero_iff {bytes : List UInt8} :
    escapeCount bytes = 0 ↔ ∀ position, escapeAt? bytes position = none := by
  rw [escapeCount, List.countP_eq_zero]
  constructor
  · intro h position
    by_cases hposition : position < bytes.length
    · simpa using h position (List.mem_range.2 hposition)
    · exact escapeAt?_of_length_le (by omega)
  · intro h position _
    simp [h position]

/-! ## One round -/

/-- Every escape that is read makes the bytes two shorter. -/
theorem length_unescapeBytes (bytes : List UInt8) :
    (unescapeBytes bytes).length + 2 * escapeCount bytes = bytes.length := by
  fun_induction unescapeBytes bytes with
  | case1 => rfl
  | case2 b =>
      have hb : escapeAt? [b] 0 = none := escapeAt?_of_length_le (Nat.le_succ 1)
      rw [escapeCount_cons_of_none hb]
      rfl
  | case3 b c =>
      have hb : escapeAt? [b, c] 0 = none := escapeAt?_of_length_le (Nat.le_refl 2)
      have hc : escapeAt? [c] 0 = none := escapeAt?_of_length_le (Nat.le_succ 1)
      rw [escapeCount_cons_of_none hb, escapeCount_cons_of_none hc]
      rfl
  | case4 high low rest byte hbyte ih =>
      rw [escapeCount_escape hbyte]
      simp only [List.length_cons]
      omega
  | case5 high low rest hnone ih =>
      rw [escapeCount_cons_of_none ((escapeAt?_zero high low rest).trans hnone), List.length_cons,
        List.length_cons, ← ih]
      omega
  | case6 b high low rest hne ih =>
      rw [escapeCount_cons_of_none (escapeAt?_of_ne fun h => hne (Option.some.inj h)),
        List.length_cons, List.length_cons, ← ih]
      omega

theorem unescapeBytes_eq_nil_iff {bytes : List UInt8} : unescapeBytes bytes = [] ↔ bytes = [] := by
  fun_cases unescapeBytes bytes <;> simp

theorem replaceEscapes_of_no_escape {bytes : List UInt8}
    (h : ∀ position, escapeAt? bytes position = none) : replaceEscapes bytes = bytes := by
  induction bytes with
  | nil => rfl
  | cons b bytes ih =>
      rw [replaceEscapes_cons (h 0), ih fun position => ?_]
      rw [← escapeAt?_cons_succ b]
      exact h (position + 1)

theorem replaceEscapes_eq_self_iff {bytes : List UInt8} :
    replaceEscapes bytes = bytes ↔ ∀ position, escapeAt? bytes position = none := by
  constructor
  · intro h
    have hlength := length_unescapeBytes bytes
    rw [unescapeBytes_eq_replaceEscapes, h] at hlength
    exact escapeCount_eq_zero_iff.1 (by omega)
  · exact replaceEscapes_of_no_escape

section Round

variable {t : Text}

theorem percentDecode_eq_self_iff : percentDecode t = t ↔ Settled t := by
  rw [percentDecode_eq_iff, eq_comm, replaceEscapes_eq_self_iff]
  simp only [true_and, Settled]

theorem length_percentDecode (h : ¬ Settled t) :
    0 < escapeCount (utf8 t) ∧
      (utf8 (percentDecode t)).length + 2 * escapeCount (utf8 t) = (utf8 t).length := by
  obtain ⟨hescape, htext⟩ := not_or.1 h
  refine ⟨Nat.pos_of_ne_zero (mt escapeCount_eq_zero_iff.1 hescape), ?_⟩
  obtain ⟨u, hu⟩ := not_forall_not.1 htext
  have hdecoded : percentDecode t = u := percentDecode_eq_iff.2 (Or.inl hu)
  rw [hdecoded, hu, ← unescapeBytes_eq_replaceEscapes]
  exact length_unescapeBytes (utf8 t)

theorem percentDecode_eq_nil_iff : percentDecode t = [] ↔ t = [] := by
  constructor
  · intro h
    rcases percentDecode_eq_iff.1 h with hbytes | ⟨rfl, -⟩
    · rw [utf8_nil, ← unescapeBytes_eq_replaceEscapes] at hbytes
      exact utf8_injective (unescapeBytes_eq_nil_iff.1 hbytes.symm)
    · rfl
  · rintro rfl
    rfl

end Round

/-! ## All rounds -/

/-- Decoding settles before the bytes are used up, two of them at least in each round. -/
theorem exists_settled_iterate (t : Text) :
    ∃ rounds, 2 * rounds ≤ (utf8 t).length ∧ Settled (percentDecode^[rounds] t) := by
  induction hbytes : (utf8 t).length using Nat.strongRecOn generalizing t with
  | ind bytes ih =>
      by_cases hsettled : Settled t
      · exact ⟨0, Nat.zero_le _, hsettled⟩
      · obtain ⟨hescape, hlength⟩ := length_percentDecode hsettled
        obtain ⟨rounds, hrounds, hlast⟩ := ih _ (by omega) (percentDecode t) rfl
        exact ⟨rounds + 1, by omega, hlast⟩

/-- **Decoding settles.** A text is a fixed point exactly if it holds no escape or its escapes make
no text. Any other text gets two bytes shorter for each of its escapes, but never empty, and
decoding it twice is decoding it once exactly if the decoded text is a fixed point. After at most
half as many rounds as there are bytes a fixed point is reached, and no later round changes it. -/
theorem percentDecode_settles (t : Text) :
    (percentDecode t = t ↔ Settled t) ∧
    (¬ Settled t → 0 < escapeCount (utf8 t) ∧
      (utf8 (percentDecode t)).length + 2 * escapeCount (utf8 t) = (utf8 t).length) ∧
    (percentDecode t = [] ↔ t = []) ∧
    (percentDecode (percentDecode t) = percentDecode t ↔ Settled (percentDecode t)) ∧
    ∃ rounds, 2 * rounds ≤ (utf8 t).length ∧
      percentDecode (percentDecode^[rounds] t) = percentDecode^[rounds] t ∧
      ∀ later ≥ rounds, percentDecode^[later] t = percentDecode^[rounds] t := by
  refine ⟨percentDecode_eq_self_iff, length_percentDecode, percentDecode_eq_nil_iff,
    percentDecode_eq_self_iff, ?_⟩
  obtain ⟨rounds, hrounds, hsettled⟩ := exists_settled_iterate t
  have hfixed := percentDecode_eq_self_iff.2 hsettled
  refine ⟨rounds, hrounds, hfixed, ?_⟩
  intro later hlater
  obtain ⟨more, rfl⟩ := Nat.exists_eq_add_of_le' hlater
  rw [Function.iterate_add_apply, Function.iterate_fixed hfixed]

/-- Each of three rounds makes the escape that the next one reads. -/
theorem percentDecode_settles_nested :
    ¬ Settled "%%32541".toList ∧
    (utf8 (percentDecode "%%32541".toList)).length + 2 * escapeCount (utf8 "%%32541".toList) = 7 ∧
    ¬ Settled (percentDecode "%%32541".toList) ∧
    ∃ rounds, 2 * rounds ≤ 7 ∧ percentDecode^[rounds] "%%32541".toList = ['A'] := by
  have honce : percentDecode "%%32541".toList = "%2541".toList := by decide
  have htwice : percentDecode "%2541".toList = "%41".toList := by decide
  have hlast : percentDecode^[3] "%%32541".toList = ['A'] := by decide
  obtain ⟨hfixed, hshorter, -, hagain, rounds, hrounds, -, hlater⟩ :=
    percentDecode_settles "%%32541".toList
  have hopen : ¬ Settled "%%32541".toList := by
    rw [← hfixed, honce]
    decide
  refine ⟨hopen, (hshorter hopen).2, ?_, rounds, hrounds, ?_⟩
  · rw [← hagain, honce, htwice]
    decide
  · have hbytes : 2 * rounds ≤ 7 := hrounds
    rw [← hlater 3 (by omega), hlast]

end RoutePattern.Text
