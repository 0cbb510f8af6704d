import Mathlib.Data.List.DropRight
import RoutePattern.Text

/-!
# The layout of what is printed

How a reader who knows only the layout takes apart what is printed: the lines, where every line feed
ends one (`lines`), and what stands behind the last of the marks that are known to stand there
(`afterLast`). A text that is printed as a line may hold line feeds, and then it is read as several
lines (`lines_flatMap`); only texts without one are read as they were printed
(`flatMap_pieces_of_forall_not_mem`). A column is as wide as it should be, if what stands in it is
no longer than that (`length_padRight`).
-/

namespace RoutePattern

/-- The part of a list behind the last of its members that are equal to `mark`. -/
def afterLast {α : Type} [DecidableEq α] (mark : α) (as : List α) : List α :=
  as.rtakeWhile (· ≠ mark)

theorem afterLast_append {α : Type} [DecidableEq α] {mark : α} {later : List α} (front : List α)
    (h : mark ∉ later) : afterLast mark (front ++ mark :: later) = later := by
  have hlater : ∀ a ∈ later.reverse, decide (a ≠ mark) = true := by
    intro a ha
    refine decide_eq_true ?_
    rintro rfl
    exact h (List.mem_reverse.1 ha)
  rw [afterLast, List.rtakeWhile, List.reverse_append, List.reverse_cons, List.append_assoc,
    List.takeWhile_append_of_pos hlater, List.singleton_append,
    List.takeWhile_cons_of_neg (by simp), List.append_nil, List.reverse_reverse]

namespace Text

/-! ## Lines -/

/-- The pieces of a text between its line feeds, at least one. -/
def pieces (t : Text) : List Text :=
  let cut := split '\n' t
  cut.1 :: cut.2

def lines (t : Text) : List Text :=
  (pieces t).dropLast

theorem pieces_newline_cons (t : Text) : pieces ('\n' :: t) = [] :: pieces t := by
  simp [pieces, split_sep_cons]

theorem pieces_cons_of_ne {c : Char} (h : c ≠ '\n') (t : Text) :
    pieces (c :: t) = (c :: (split '\n' t).1) :: (split '\n' t).2 := by
  simp [pieces, split, h]

theorem pieces_append (s t : Text) : pieces (s ++ '\n' :: t) = pieces s ++ pieces t := by
  induction s with
  | nil => simp [pieces, split]
  | cons c s ih =>
      by_cases h : c = '\n'
      · rw [h, List.cons_append, pieces_newline_cons, pieces_newline_cons, ih, List.cons_append]
      · simpa [pieces, split, h] using ih

theorem pieces_of_not_mem {t : Text} (h : '\n' ∉ t) : pieces t = [t] := by
  have hcut := split_append h []
  rw [List.append_nil] at hcut
  simp [pieces, hcut, split]

/-- A text that is printed as a line is read as its pieces. -/
theorem lines_flatMap (ts : List Text) :
    lines (ts.flatMap (· ++ ['\n'])) = ts.flatMap pieces := by
  have hpieces : pieces (ts.flatMap (· ++ ['\n'])) = ts.flatMap pieces ++ [[]] := by
    induction ts with
    | nil => rfl
    | cons t ts ih =>
        rw [List.flatMap_cons, List.append_assoc, List.singleton_append, pieces_append, ih,
          List.flatMap_cons, List.append_assoc]
  rw [lines, hpieces, List.dropLast_concat]

theorem flatMap_pieces_of_forall_not_mem {ts : List Text} (h : ∀ t ∈ ts, '\n' ∉ t) :
    ts.flatMap pieces = ts := by
  induction ts with
  | nil => rfl
  | cons t ts ih =>
      obtain ⟨ht, hts⟩ := List.forall_mem_cons.1 h
      rw [List.flatMap_cons, pieces_of_not_mem ht, ih hts, List.singleton_append]

/-- A margin is what stands between the pieces, together with their line feeds. -/
theorem indentLater_eq_intercalate (margin : Nat) (t : Text) :
    indentLater margin t = ('\n' :: List.replicate margin ' ').intercalate (pieces t) := by
  induction t with
  | nil => simp [indentLater, pieces, split]
  | cons c t ih =>
      show (if c = '\n' then _ else _) ++ indentLater margin t = _
      rw [ih]
      by_cases h : c = '\n'
      · rw [if_pos h, h, pieces_newline_cons, pieces, List.intercalate_cons_cons]
        rfl
      · rw [if_neg h, pieces_cons_of_ne h, pieces]
        cases (split '\n' t).2 with
        | nil => simp
        | cons piece later => simp [List.intercalate_cons_cons]

/-! ## Columns -/

theorem length_padRight {width : Nat} {t : Text} (h : t.length ≤ width) :
    (padRight width t).length = width := by
  rw [padRight, List.length_append, List.length_replicate]
  omega

theorem newline_not_mem_ofNat (n : Nat) : '\n' ∉ ofNat n := by
  intro hmem
  have hdigit : '\n'.isDigit = true := Nat.isDigit_of_mem_toDigits (by decide) (by decide) hmem
  exact absurd hdigit (by decide)

end Text

end RoutePattern
