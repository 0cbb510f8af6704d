import RoutePattern.Proofs.JsonReader

/-!
# What is printed is read back

A printed value is read in front of any text that does not go on with a number (`readValue_print`).
The items of an array and the members of an object stand on lines of their own, the later ones
behind a comma, and are read one after another up to the closing sign (`itemsUntil_lines`); each of
them is shorter than the whole, so that the levels that may be read suffice. A whole text is read
back with any space behind it (`read?_print`).
-/

namespace RoutePattern.Json

/-! ## Items one after another -/

theorem dropWhile_isSpace_newLine (margin : Nat) (t : Text) :
    (newLine margin ++ t).dropWhile isSpace = t.dropWhile isSpace := by
  apply List.dropWhile_append_of_pos
  intro c hc
  rw [newLine, List.mem_cons, List.mem_replicate] at hc
  rcases hc with rfl | ⟨-, rfl⟩
  · rfl
  · rfl

theorem sign_cons {c : Char} (h : isSpace c = false) (t : Text) :
    sign c (c :: t) = some ([c], t) := by
  rw [sign, List.dropWhile_cons_of_neg (by simp [h])]
  simp [Reader.exactly, Text.dropPrefix?]

theorem sign_newLine (c : Char) (margin : Nat) (t : Text) :
    sign c (newLine margin ++ t) = sign c t := by
  rw [sign, dropWhile_isSpace_newLine]
  rfl

theorem sign_of_ne {c d : Char} (hd : isSpace d = false) (hne : c ≠ d) (t : Text) :
    sign c (d :: t) = none := by
  rw [sign, List.dropWhile_cons_of_neg (by simp [hd])]
  simp [Reader.exactly, Text.dropPrefix?, hne]

theorem stopsNumber_newLine (margin : Nat) (t : Text) : StopsNumber (newLine margin ++ t) :=
  stopsNumber_cons (by decide) _

section Items

variable {α : Type}

/-- An item behind another one, on a line of its own. -/
def writeLater (margin : Nat) (write : α → Text) (a : α) : Text :=
  ',' :: (newLine margin ++ write a)

theorem laterItem_writeLater {item : Reader α} {margin : Nat} {write : α → Text} (a : α)
    (t : Text) :
    laterItem item (writeLater margin write a ++ t) = item (newLine margin ++ (write a ++ t)) := by
  rw [laterItem, writeLater, List.cons_append, sign_cons (by decide), List.append_assoc]
  rfl

/-- Items that are written on lines of their own are read up to the closing sign. -/
theorem itemsUntil_lines {close : Char} {item : Reader α} {write : α → Text} {first : α}
    {later : List α} (inner outer : Nat) (t : Text)
    (hclose : isSpace close = false ∧ close ≠ ',')
    (hstart : ∃ c s, write first = c :: s ∧ isSpace c = false ∧ close ≠ c)
    (hitem : ∀ a ∈ first :: later, ∀ left, StopsNumber left →
      item (newLine inner ++ (write a ++ left)) = some (a, left)) :
    itemsUntil close item (newLine inner ++ (write first ++
      (later.flatMap (writeLater inner write) ++ (newLine outer ++ close :: t)))) =
      some (first :: later, t) := by
  have hopen : ∀ left, sign close (newLine inner ++ (write first ++ left)) = none := by
    intro left
    obtain ⟨c, s, hwrite, hc, hne⟩ := hstart
    rw [hwrite, sign_newLine, List.cons_append, sign_of_ne hc hne]
  have hfirst := hitem first List.mem_cons_self
    (later.flatMap (writeLater inner write) ++ (newLine outer ++ close :: t)) (by
      cases later with
      | nil => exact stopsNumber_newLine outer _
      | cons a later => exact stopsNumber_cons (by decide) _)
  have hlater : Reader.many (laterItem item)
      (later.flatMap (writeLater inner write) ++ (newLine outer ++ close :: t)) =
        (later, newLine outer ++ close :: t) := by
    apply @Reader.many_flatMap _ (laterItem item) (writeLater inner write) StopsNumber
    · intro a ha left hleft
      rw [laterItem_writeLater]
      exact hitem a (List.mem_cons_of_mem _ ha) left hleft
    · intro a _
      exact ⟨List.cons_ne_nil _ _, fun left => stopsNumber_cons (by decide) _⟩
    · exact stopsNumber_newLine outer _
    · rw [laterItem, sign_newLine, sign_of_ne hclose.1 (Ne.symm hclose.2)]
      rfl
  have hend : sign close (newLine outer ++ close :: t) = some ([close], t) := by
    rw [sign_newLine, sign_cons hclose.1]
  rw [itemsUntil, hopen]
  simp only [hfirst, hlater, hend, bind, Option.bind_some]

end Items

theorem comma_append_printItems (margin : Nat) (items : List Json) :
    comma items ++ printItems margin items = items.flatMap (writeLater margin (print margin)) := by
  induction items with
  | nil => rfl
  | cons item later ih =>
      rw [List.flatMap_cons, ← ih, printItems, writeLater]
      simp [comma]

def printMember (margin : Nat) (member : Text × Json) : Text :=
  printString member.1 ++ ':' :: ' ' :: print margin member.2

theorem comma_append_printMembers (margin : Nat) (members : List (Text × Json)) :
    comma members ++ printMembers margin members =
      members.flatMap (writeLater margin (printMember margin)) := by
  induction members with
  | nil => rfl
  | cons member later ih =>
      rw [List.flatMap_cons, ← ih, printMembers, writeLater, printMember]
      simp [comma]

theorem print_array_cons (margin : Nat) (first : Json) (later : List Json) (t : Text) :
    print margin (.array (first :: later)) ++ t =
      '[' :: (newLine (margin + 2) ++ (print (margin + 2) first ++
        (later.flatMap (writeLater (margin + 2) (print (margin + 2))) ++
          (newLine margin ++ ']' :: t)))) := by
  rw [← comma_append_printItems]
  simp [print, printItems]

theorem print_object_cons (margin : Nat) (first : Text × Json) (later : List (Text × Json))
    (t : Text) :
    print margin (.object (first :: later)) ++ t =
      '{' :: (newLine (margin + 2) ++ (printMember (margin + 2) first ++
        (later.flatMap (writeLater (margin + 2) (printMember (margin + 2))) ++
          (newLine margin ++ '}' :: t)))) := by
  rw [← comma_append_printMembers]
  simp [print, printMembers, printMember]

/-! ## Values are read back -/

theorem ne_of_isDigit {c d : Char} (hc : c.isDigit = true) (hd : d.isDigit = false) : c ≠ d := by
  rintro rfl
  rw [hc] at hd
  cases hd

theorem not_isSpace_of_isDigit {c : Char} (h : c.isDigit = true) : isSpace c = false := by
  have hne : ∀ d, d.isDigit = false → c ≠ d := fun d => ne_of_isDigit h
  simp [isSpace, hne ' ' rfl, hne '\t' rfl, hne '\n' rfl, hne '\r' rfl]

/-- A printed value starts with a character that is neither space nor the end of an array. -/
theorem exists_print_eq_cons (margin : Nat) (json : Json) :
    ∃ c s, print margin json = c :: s ∧ isSpace c = false ∧ ']' ≠ c := by
  cases json with
  | null => exact ⟨'n', _, rfl, by decide, by decide⟩
  | bool b =>
      cases b with
      | true => exact ⟨'t', _, rfl, by decide, by decide⟩
      | false => exact ⟨'f', _, rfl, by decide, by decide⟩
  | number n =>
      obtain ⟨c, s, hdigits, hc⟩ := exists_ofNat_eq_cons n
      exact ⟨c, s, hdigits, not_isSpace_of_isDigit hc, Ne.symm (ne_of_isDigit hc rfl)⟩
  | string t => exact ⟨'\x22', _, rfl, by decide, by decide⟩
  | array items =>
      cases items with
      | nil => exact ⟨'[', _, rfl, by decide, by decide⟩
      | cons first later => exact ⟨'[', _, rfl, by decide, by decide⟩
  | object members =>
      cases members with
      | nil => exact ⟨'{', _, rfl, by decide, by decide⟩
      | cons first later => exact ⟨'{', _, rfl, by decide, by decide⟩

theorem readValue_congr {t u : Text} (h : t.dropWhile isSpace = u.dropWhile isSpace)
    (depth : Nat) : readValue depth t = readValue depth u := by
  cases depth with
  | zero => rfl
  | succ depth => rw [readValue, readValue, h]

theorem readValue_newLine (depth margin : Nat) (t : Text) :
    readValue depth (newLine margin ++ t) = readValue depth t :=
  readValue_congr (dropWhile_isSpace_newLine margin t) depth

theorem readMember_printMember {value : Reader Json} {margin : Nat} {member : Text × Json}
    {left : Text} (outer : Nat)
    (h : value (' ' :: (print margin member.2 ++ left)) = some (member.2, left)) :
    readMember value (newLine outer ++ (printMember margin member ++ left)) =
      some (member, left) := by
  have hname : (newLine outer ++ (printMember margin member ++ left)).dropWhile isSpace =
      printString member.1 ++ ':' :: ' ' :: (print margin member.2 ++ left) := by
    rw [dropWhile_isSpace_newLine, printMember, List.append_assoc]
    rfl
  rw [readMember, hname, readString_printString]
  simp only [bind, Option.bind_some]
  rw [sign_cons (by decide), Option.bind_some, h]
  rfl

theorem readValue_of_isDigit {c : Char} (h : c.isDigit = true) (depth : Nat) (t : Text) :
    readValue (depth + 1) (c :: t) =
      (readNumber (c :: t)).map fun (n, left) => (.number n, left) := by
  have hne : ∀ d, d.isDigit = false → c ≠ d := fun d => ne_of_isDigit h
  rw [readValue, List.dropWhile_cons_of_neg (by simp [not_isSpace_of_isDigit h])]
  simp [h, hne '[' rfl, hne '{' rfl, hne '\x22' rfl]

theorem readValue_number (depth n : Nat) {t : Text} (h : StopsNumber t) :
    readValue (depth + 1) (Text.ofNat n ++ t) = some (.number n, t) := by
  obtain ⟨c, s, hdigits, hc⟩ := exists_ofNat_eq_cons n
  have hread := readNumber_ofNat n h
  rw [hdigits, List.cons_append] at hread ⊢
  rw [readValue_of_isDigit hc, hread]
  rfl

section Nested

variable {depth margin : Nat} {t : Text}

theorem readValue_array {first : Json} {later : List Json}
    (h : ∀ item ∈ first :: later, ∀ left, StopsNumber left →
      readValue depth (print (margin + 2) item ++ left) = some (item, left)) :
    readValue (depth + 1) (print margin (.array (first :: later)) ++ t) =
      some (.array (first :: later), t) := by
  have hitem : ∀ item ∈ first :: later, ∀ left, StopsNumber left →
      readValue depth (newLine (margin + 2) ++ (print (margin + 2) item ++ left)) =
        some (item, left) := by
    intro item hmem left hleft
    rw [readValue_newLine, h item hmem left hleft]
  rw [print_array_cons]
  show (itemsUntil ']' (readValue depth) _).map _ = _
  rw [itemsUntil_lines (margin + 2) margin t (by decide) (exists_print_eq_cons _ first) hitem]
  rfl

theorem readValue_object {first : Text × Json} {later : List (Text × Json)}
    (h : ∀ member ∈ first :: later, ∀ left, StopsNumber left →
      readValue depth (print (margin + 2) member.2 ++ left) = some (member.2, left)) :
    readValue (depth + 1) (print margin (.object (first :: later)) ++ t) =
      some (.object (first :: later), t) := by
  have hmember : ∀ member ∈ first :: later, ∀ left, StopsNumber left →
      readMember (readValue depth)
        (newLine (margin + 2) ++ (printMember (margin + 2) member ++ left)) =
          some (member, left) := by
    intro member hmem left hleft
    apply readMember_printMember
    have hspace : (' ' :: (print (margin + 2) member.2 ++ left)).dropWhile isSpace =
        (print (margin + 2) member.2 ++ left).dropWhile isSpace := rfl
    rw [readValue_congr hspace, h member hmem left hleft]
  have hstart : ∃ c s, printMember (margin + 2) first = c :: s ∧ isSpace c = false ∧ '}' ≠ c :=
    ⟨'\x22', _, rfl, by decide, by decide⟩
  rw [print_object_cons]
  show (itemsUntil '}' (readMember (readValue depth)) _).map _ = _
  rw [itemsUntil_lines (margin + 2) margin t (by decide) hstart hmember]
  rfl

/-- Every item is shorter than the lines around it. -/
theorem length_lt_of_mem_lines {α : Type} {write : α → Text} {a first : α} {later : List α}
    (h : a ∈ first :: later) (opening : Char) (margin : Nat) (ending : Text) :
    (write a).length < (opening :: (newLine margin ++ (write first ++
      (later.flatMap (writeLater margin write) ++ ending)))).length := by
  simp only [List.length_cons, List.length_append]
  rcases List.mem_cons.1 h with rfl | hlater
  · omega
  · obtain ⟨before, after, rfl⟩ := List.append_of_mem hlater
    simp only [List.flatMap_append, List.flatMap_cons, List.length_append, writeLater,
      List.length_cons]
    omega

theorem length_print_item {item : Json} {items : List Json} (h : item ∈ items) (margin : Nat) :
    (print (margin + 2) item).length < (print margin (.array items)).length := by
  cases items with
  | nil => cases h
  | cons first later =>
      rw [← List.append_nil (print margin _), print_array_cons]
      exact length_lt_of_mem_lines h '[' (margin + 2) _

theorem length_print_member {member : Text × Json} {members : List (Text × Json)}
    (h : member ∈ members) (margin : Nat) :
    (print (margin + 2) member.2).length < (print margin (.object members)).length := by
  cases members with
  | nil => cases h
  | cons first later =>
      rw [← List.append_nil (print margin _), print_object_cons]
      refine Nat.lt_of_le_of_lt ?_ (length_lt_of_mem_lines h '{' (margin + 2) _)
      simp only [printMember, List.length_append, List.length_cons]
      omega

end Nested

/-- A printed value is read in front of any text that does not go on with a number. The induction is
on the levels that may be read, of which the items of an array or an object have one less. -/
theorem readValue_print {depth : Nat} {json : Json} {margin : Nat} {t : Text}
    (hdepth : (print margin json).length ≤ depth) (ht : StopsNumber t) :
    readValue depth (print margin json ++ t) = some (json, t) := by
  induction depth generalizing json margin t with
  | zero =>
      obtain ⟨c, s, hprint, -⟩ := exists_print_eq_cons margin json
      rw [hprint] at hdepth
      cases hdepth
  | succ depth ih =>
      cases json with
      | null => rfl
      | bool b =>
          cases b with
          | true => rfl
          | false => rfl
      | number n => exact readValue_number depth n ht
      | string s =>
          show (readString (printString s ++ t)).map _ = _
          rw [readString_printString]
          rfl
      | array items =>
          cases items with
          | nil => rfl
          | cons first later =>
              apply readValue_array
              intro item hmem left hleft
              have hlength := length_print_item hmem margin
              exact ih (by omega) hleft
      | object members =>
          cases members with
          | nil => rfl
          | cons first later =>
              apply readValue_object
              intro member hmem left hleft
              have hlength := length_print_member hmem margin
              exact ih (by omega) hleft

/-- What is printed is read back, whatever space follows it. -/
theorem read?_print (json : Json) (margin : Nat) {space : Text}
    (h : space.all isSpace = true) : read? (print margin json ++ space) = some json := by
  have hstop : StopsNumber space := by
    intro c hc
    have hspace : isSpace c = true := List.all_eq_true.1 h c (List.mem_of_mem_head? hc)
    cases hdigit : c.isDigit with
    | false => rfl
    | true => cases hspace.symm.trans (not_isSpace_of_isDigit hdigit)
  rw [read?, readValue_print (by simp) hstop]
  simp only [bind, Option.bind_some]
  rw [if_pos h]

end RoutePattern.Json
