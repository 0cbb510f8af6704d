import RoutePattern.Text

/-!
# Readers

A reader takes something off the front of a text and returns it with the text that is left, or
fails. `many` repeats a reader that takes at least one character each time.
-/

namespace RoutePattern

/-- Takes something off the front of a text. -/
abbrev Reader (α : Type) := Text → Option (α × Text)

namespace Reader

variable {α : Type}

/-- What a reader takes when it is repeated until it fails, but at most `count` times. -/
def manyUpTo (read : Reader α) : (count : Nat) → Text → List α × Text
  | 0, t => ([], t)
  | count + 1, t =>
    match read t with
    | none => ([], t)
    | some (a, left) =>
      let taken := manyUpTo read count left
      (a :: taken.1, taken.2)

/-- What a reader takes when it is repeated until it fails. A reader that takes at least one
character each time cannot succeed more often than there are characters. -/
def many (read : Reader α) (t : Text) : List α × Text :=
  manyUpTo read t.length t

/-- What holds of all that a reader can take holds of each thing that it takes when repeated. -/
theorem forall_mem_many {p : α → Prop} {read : Reader α}
    (hread : ∀ {t a left}, read t = some (a, left) → p a) (t : Text) :
    ∀ a ∈ (many read t).1, p a := by
  suffices h : ∀ count t, ∀ a ∈ (manyUpTo read count t).1, p a from h t.length t
  intro count
  induction count with
  | zero => exact fun t => nofun
  | succ count ih =>
      intro t
      rw [manyUpTo]
      split
      · exact nofun
      · rename_i a left htaken
        exact List.forall_mem_cons.2 ⟨hread htaken, ih left⟩

/-- Things that were written one after another are read back, if each of them is read in front of any
text that may follow it, and nothing more is read at the end. -/
theorem many_flatMap {read : Reader α} {write : α → Text} {MayFollow : Text → Prop} {as : List α}
    {left : Text} (hread : ∀ a ∈ as, ∀ t, MayFollow t → read (write a ++ t) = some (a, t))
    (hwrite : ∀ a ∈ as, write a ≠ [] ∧ ∀ t, MayFollow (write a ++ t))
    (hleft : MayFollow left) (hstop : read left = none) :
    many read (as.flatMap write ++ left) = (as, left) := by
  suffices h : ∀ count ≥ (as.flatMap write).length,
      manyUpTo read count (as.flatMap write ++ left) = (as, left) from h _ (by simp)
  induction as with
  | nil =>
      intro count _
      cases count with
      | zero => rfl
      | succ count => simp [manyUpTo, hstop]
  | cons a as ih =>
      intro count hcount
      have hpos := List.length_pos_iff.2 (hwrite a List.mem_cons_self).1
      have hfollow : MayFollow (as.flatMap write ++ left) := by
        cases as with
        | nil => exact hleft
        | cons b as =>
            rw [List.flatMap_cons, List.append_assoc]
            exact (hwrite b (List.mem_cons_of_mem _ List.mem_cons_self)).2 _
      rw [List.flatMap_cons, List.length_append] at hcount
      cases count with
      | zero => omega
      | succ count =>
          have hlater := ih (fun b hb => hread b (List.mem_cons_of_mem _ hb))
            (fun b hb => hwrite b (List.mem_cons_of_mem _ hb)) count (by omega)
          rw [List.flatMap_cons, List.append_assoc, manyUpTo,
            hread a List.mem_cons_self _ hfollow]
          simp only [hlater]

def orElse (first second : Reader α) : Reader α := fun t =>
  (first t).or (second t)

def charWhere (accept : Char → Bool) : Reader Char
  | [] => none
  | c :: t => if accept c then some (c, t) else none

def exactly (expected : Text) : Reader Text := fun t =>
  (Text.dropPrefix? expected t).map fun left => (expected, left)

def times (count : Nat) (accept : Char → Bool) : Reader Text := fun t =>
  let taken := t.take count
  if taken.length = count && taken.all accept then some (taken, t.drop count) else none

end Reader

end RoutePattern
