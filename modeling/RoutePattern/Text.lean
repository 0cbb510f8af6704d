/-!
# Texts

A text is the list of its characters, so that every definition of the library recurses on the
characters themselves. This module holds the cuts that the pattern grammar is made of: at every
separator (`split`), at the first one (`cut?`), and at a fixed beginning or ending
(`dropPrefix?`, `dropSuffix?`). The lemmas say that a cut loses nothing and that no piece
before a separator holds one.
-/

namespace RoutePattern

abbrev Text := List Char

namespace Text

/-! ## Cutting at every separator -/

/-- The piece before the first separator, and the pieces after each of them. -/
def split (sep : Char) : Text → Text × List Text
  | [] => ([], [])
  | c :: t =>
    let cut := split sep t
    if c = sep then ([], cut.1 :: cut.2) else (c :: cut.1, cut.2)

theorem split_fst_append (sep : Char) (t : Text) :
    (split sep t).1 ++ (split sep t).2.flatMap (sep :: ·) = t := by
  induction t with
  | nil => rfl
  | cons c t ih =>
      by_cases h : c = sep
      · simpa [split, h] using ih
      · simpa [split, h] using ih

theorem not_mem_split_fst (sep : Char) (t : Text) : sep ∉ (split sep t).1 := by
  induction t with
  | nil => simp [split]
  | cons c t ih =>
      by_cases h : c = sep
      · simp [split, h]
      · simpa [split, h] using ⟨fun hc => h hc.symm, ih⟩

theorem not_mem_of_mem_split_snd {sep : Char} {t piece : Text}
    (h : piece ∈ (split sep t).2) : sep ∉ piece := by
  induction t with
  | nil => simp [split] at h
  | cons c t ih =>
      by_cases hc : c = sep
      · rw [split, if_pos hc] at h
        rcases List.mem_cons.1 h with rfl | h
        · exact not_mem_split_fst sep t
        · exact ih h
      · rw [split, if_neg hc] at h
        exact ih h

theorem split_append {sep : Char} {before : Text} (h : sep ∉ before) (after : Text) :
    split sep (before ++ after) = (before ++ (split sep after).1, (split sep after).2) := by
  induction before with
  | nil => rfl
  | cons c t ih =>
      simp only [List.mem_cons, not_or] at h
      rw [List.cons_append, split, ih h.2, if_neg (Ne.symm h.1)]
      rfl

theorem split_sep_cons (sep : Char) (t : Text) :
    split sep (sep :: t) = ([], (split sep t).1 :: (split sep t).2) := by
  rw [split, if_pos rfl]

/-- Pieces without separators are cut apart again where they were put together. -/
theorem split_flatMap {sep : Char} {before : Text} {pieces : List Text} (hbefore : sep ∉ before)
    (hpieces : ∀ piece ∈ pieces, sep ∉ piece) :
    split sep (before ++ pieces.flatMap (sep :: ·)) = (before, pieces) := by
  induction pieces generalizing before with
  | nil =>
      rw [split_append hbefore]
      simp [split]
  | cons piece pieces ih =>
      have hrest := ih (hpieces piece List.mem_cons_self)
        fun p hp => hpieces p (List.mem_cons_of_mem _ hp)
      rw [split_append hbefore, List.flatMap_cons, List.cons_append, split_sep_cons, hrest]
      simp

/-! ## Cutting at the first separator -/

/-- The texts before and after the first separator, if there is one. -/
def cut? (sep : Char) : Text → Option (Text × Text)
  | [] => none
  | c :: t => if c = sep then some ([], t) else (cut? sep t).map fun cut => (c :: cut.1, cut.2)

theorem cut?_eq_none_iff {sep : Char} {t : Text} : cut? sep t = none ↔ sep ∉ t := by
  induction t with
  | nil => simp [cut?]
  | cons c t ih =>
      by_cases h : c = sep
      · simp [cut?, h]
      · simp [cut?, h, ih, Ne.symm h]

theorem cut?_append (sep : Char) {before : Text} (after : Text) (h : sep ∉ before) :
    cut? sep (before ++ sep :: after) = some (before, after) := by
  induction before with
  | nil => simp [cut?]
  | cons c t ih =>
      simp only [List.mem_cons, not_or] at h
      simp [cut?, Ne.symm h.1, ih h.2]

theorem eq_append_of_cut? {sep : Char} {t before after : Text}
    (h : cut? sep t = some (before, after)) : t = before ++ sep :: after ∧ sep ∉ before := by
  induction t generalizing before with
  | nil => simp [cut?] at h
  | cons c t ih =>
      by_cases hc : c = sep
      · simp only [cut?, hc, if_true, Option.some.injEq, Prod.mk.injEq] at h
        obtain ⟨rfl, rfl⟩ := h
        simp [hc]
      · simp only [cut?, hc, if_false, Option.map_eq_some_iff, Prod.mk.injEq] at h
        obtain ⟨⟨b, a⟩, hcut, rfl, rfl⟩ := h
        obtain ⟨rfl, hb⟩ := ih hcut
        exact ⟨rfl, by simp [Ne.symm hc, hb]⟩

/-! ## Fixed beginnings and endings -/

/-- What follows `start` in a text that begins with it. -/
def dropPrefix? : (start t : Text) → Option Text
  | [], t => some t
  | _ :: _, [] => none
  | s :: start, c :: t => if s = c then dropPrefix? start t else none

theorem dropPrefix?_eq_some_iff {start t rest : Text} :
    dropPrefix? start t = some rest ↔ t = start ++ rest := by
  induction start generalizing t with
  | nil => simp [dropPrefix?]
  | cons s start ih =>
      cases t with
      | nil => simp [dropPrefix?]
      | cons c t =>
          by_cases h : s = c
          · simp [dropPrefix?, h, ih]
          · simp [dropPrefix?, h, Ne.symm h]

/-- What precedes `ending` in a text that ends with it. -/
def dropSuffix? (ending t : Text) : Option Text :=
  (dropPrefix? ending.reverse t.reverse).map List.reverse

theorem dropSuffix?_eq_some_iff {ending t rest : Text} :
    dropSuffix? ending t = some rest ↔ t = rest ++ ending := by
  simp only [dropSuffix?, Option.map_eq_some_iff, dropPrefix?_eq_some_iff]
  constructor
  · rintro ⟨r, h, rfl⟩
    simpa using congrArg List.reverse h
  · rintro rfl
    exact ⟨rest.reverse, by simp, by simp⟩

/-! ## Layout -/

def padRight (width : Nat) (t : Text) : Text :=
  t ++ List.replicate (width - t.length) ' '

/-- The largest width of a column that is known only when it is printed. -/
def widthLimit : Nat := 65535

/-- Spaces are added on the right, unless the width is too large to be laid out. -/
def column? (width : Nat) (t : Text) : Option Text :=
  if width ≤ widthLimit then some (padRight width t) else none

def padLeft (width : Nat) (t : Text) : Text :=
  List.replicate (width - t.length) ' ' ++ t

/-- Every line after the first is moved right by `margin` spaces. -/
def indentLater (margin : Nat) (t : Text) : Text :=
  t.flatMap fun c => if c = '\n' then '\n' :: List.replicate margin ' ' else [c]

def ofNat (n : Nat) : Text := Nat.toDigits 10 n

end Text

end RoutePattern
