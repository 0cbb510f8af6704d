import RoutePattern.Table

/-!
# The document of one route

A document of one line, with a bare name behind a dot and a text between apostrophes, lists this
route and no other (`routes?_oneRoute`), whatever the name and the text are. The line is read part
by part: each name ends where the first character stands that is not bare (`keyName_bare`), and the
text at the first apostrophe (`quotation_literal`).
-/

namespace RoutePattern

/-- A reader that is repeated stops after one time, if it cannot read what is left. -/
theorem Reader.many_once {α : Type} {read : Reader α} {t left : Text} {a : α}
    (hread : read t = some (a, left)) (ht : t ≠ []) (hleft : read left = none) :
    Reader.many read t = ([a], left) := by
  have hstop : ∀ count, Reader.manyUpTo read count left = ([], left) := by
    intro count
    cases count with
    | zero => rfl
    | succ count => simp [Reader.manyUpTo, hleft]
  obtain ⟨c, later, rfl⟩ := List.exists_cons_of_ne_nil ht
  rw [Reader.many, List.length_cons, Reader.manyUpTo, hread]
  simp only [hstop]

namespace Toml

/-! ## Names -/

theorem isBare_ne {c : Char} (h : isBare c = true) :
    isBlank c = false ∧ doubleQuote ≠ c ∧ apostrophe ≠ c := by
  refine ⟨?_, ?_, ?_⟩
  · refine Bool.eq_false_iff.2 fun hblank => ?_
    have hcases : c = ' ' ∨ c = '\t' := by simpa [isBlank] using hblank
    rcases hcases with rfl | rfl <;> exact absurd h (by decide)
  · rintro rfl
    exact absurd h (by decide)
  · rintro rfl
    exact absurd h (by decide)

theorem shortString_of_ne {quote c : Char} (h : quote ≠ c) (piece : Reader Text) (t : Text) :
    shortString quote piece (c :: t) = none := by
  simp [shortString, Reader.exactly, Text.dropPrefix?, h]

/-- A bare name ends where a character stands that is neither bare nor blank. -/
theorem keyName_bare {name : Text} (hname : name ≠ []) (hbare : ∀ c ∈ name, isBare c = true)
    {c : Char} (hc : isBare c = false ∧ isBlank c = false) (t : Text) :
    keyName (name ++ c :: t) = some (name, c :: t) := by
  have hstop : ¬ isBare c = true := by simp [hc.1]
  have htake : (name ++ c :: t).takeWhile isBare = name := by
    rw [List.takeWhile_append_of_pos hbare, List.takeWhile_cons_of_neg hstop, List.append_nil]
  have hdrop : (name ++ c :: t).dropWhile isBare = c :: t := by
    rw [List.dropWhile_append_of_pos hbare, List.dropWhile_cons_of_neg hstop]
  have hread : bareName (name ++ c :: t) = some (name, c :: t) := by
    simp only [bareName, htake, hdrop, if_neg hname]
  have hafter : (c :: t).dropWhile isBlank = c :: t :=
    List.dropWhile_cons_of_neg (by simp [hc.2])
  obtain ⟨first, later, rfl⟩ := List.exists_cons_of_ne_nil hname
  obtain ⟨hblank, hdouble, hsingle⟩ := isBare_ne (hbare first List.mem_cons_self)
  have hbefore : (first :: later ++ c :: t).dropWhile isBlank = first :: later ++ c :: t :=
    List.dropWhile_cons_of_neg (by simp [hblank])
  have hnoString : (basicString.orElse literalString) (first :: later ++ c :: t) = none := by
    rw [Reader.orElse, List.cons_append, basicString, shortString_of_ne hdouble, literalString,
      shortString_of_ne hsingle]
    rfl
  rw [keyName, hbefore, Reader.orElse, hnoString, hread]
  simp only [Option.none_or, Option.bind_eq_bind, Option.bind_some, hafter]

/-- Two bare names with a dot between them are a key. -/
theorem key_dotted {first last : Text} (hfirst : first ≠ []) (hlast : last ≠ [])
    (hbare : ∀ c ∈ first ++ last, isBare c = true) (t : Text) :
    key (first ++ '.' :: (last ++ '=' :: t)) = some ({ path := [first], last }, '=' :: t) := by
  obtain ⟨hbareFirst, hbareLast⟩ := List.forall_mem_append.1 hbare
  have hopening : keyName (first ++ '.' :: (last ++ '=' :: t)) =
      some (first, '.' :: (last ++ '=' :: t)) :=
    keyName_bare hfirst hbareFirst (by decide) _
  have hlater : Reader.many laterKeyName ('.' :: (last ++ '=' :: t)) = ([last], '=' :: t) :=
    Reader.many_once (keyName_bare hlast hbareLast (by decide) t) (by simp) rfl
  rw [key, hopening]
  simp [hlater, depthLimit, Key.ofNames]

/-! ## Texts -/

/-- The characters of a text may stand between apostrophes. -/
def IsLiteral (text : Text) : Prop :=
  ∀ c ∈ text, c ≠ apostrophe ∧ isPlain c = true

theorem literalString_quoted {text : Text} (h : IsLiteral text) :
    literalString (apostrophe :: (text ++ [apostrophe])) = some (text, []) := by
  have hmany : Reader.many literalPiece ((text.map fun c => [c]).flatMap id ++ [apostrophe]) =
      (text.map fun c => [c], [apostrophe]) := by
    refine @Reader.many_flatMap _ literalPiece id (fun _ => True) _ _ ?_ ?_ trivial rfl
    · refine List.forall_mem_map.2 fun c hc t _ => ?_
      simp [literalPiece, h c hc]
    · exact List.forall_mem_map.2 fun c hc => ⟨by simp, fun _ => trivial⟩
  have hflat : (text.map fun c => [c]).flatten = text := by
    rw [← List.flatMap_def, List.flatMap_singleton']
  rw [List.flatMap_id, hflat] at hmany
  simp [literalString, shortString, Reader.exactly, Text.dropPrefix?, hmany, hflat]

theorem quotation_literal {text : Text} (h : IsLiteral text) :
    quotation (apostrophe :: (text ++ [apostrophe])) = some (text, []) := by
  have hbasic : basicString (apostrophe :: (text ++ [apostrophe])) = none :=
    shortString_of_ne (by decide) _ _
  have heither : (basicString.orElse literalString) (apostrophe :: (text ++ [apostrophe])) =
      some (text, []) := by
    rw [Reader.orElse, hbasic, literalString_quoted h]
    rfl
  -- Three quotes would open another kind of string; the text has none, and the end is too short.
  cases text with
  | nil => exact heither
  | cons first later =>
      have hfirst : apostrophe ≠ first := (h first List.mem_cons_self).1.symm
      obtain ⟨next, rest, hrest⟩ := List.exists_cons_of_ne_nil
        (List.append_ne_nil_of_right_ne_nil later (List.cons_ne_nil apostrophe []))
      rw [List.cons_append, hrest] at heither ⊢
      simp only [quotation, hfirst, decide_false, Bool.false_and, Bool.false_eq_true, if_false]
      exact heither

/-- A text between apostrophes is a value, if nothing follows it. -/
theorem value_quoted {text : Text} (h : IsLiteral text) (depth : Nat) :
    value depth (apostrophe :: (text ++ [apostrophe])) = some (.text text, []) := by
  rw [value.eq_def]
  show (if _ then (quotation (apostrophe :: (text ++ [apostrophe]))).map _ else _) = _
  rw [quotation_literal h, if_pos (by decide)]
  rfl

/-! ## The document -/

/-- A document with one route: its name behind a dot, its text between apostrophes. -/
def oneRoute (name text : Text) : Text :=
  routesName ++ '.' :: (name ++ '=' :: apostrophe :: (text ++ [apostrophe]))

variable {name text : Text}

theorem keyValue_oneRoute (hname : name ≠ []) (hbare : ∀ c ∈ name, isBare c = true)
    (htext : IsLiteral text) (depth : Nat) : keyValue (value depth) (oneRoute name text) =
      some (({ path := [routesName], last := name }, .text text), []) := by
  have hroutes : routesName.all isBare = true := rfl
  have hkey : key (oneRoute name text) = some ({ path := [routesName], last := name },
      '=' :: apostrophe :: (text ++ [apostrophe])) :=
    key_dotted (by decide) hname
      (List.forall_mem_append.2 ⟨List.all_eq_true.1 hroutes, hbare⟩) _
  rw [keyValue, hkey]
  show (value depth (apostrophe :: (text ++ [apostrophe])) >>= fun read =>
    some ((({ path := [routesName], last := name } : Key), read.1),
      read.2.dropWhile isBlank)) = _
  rw [value_quoted htext]
  rfl

theorem line_oneRoute (hname : name ≠ []) (hbare : ∀ c ∈ name, isBare c = true)
    (htext : IsLiteral text) : line (oneRoute name text) =
      some (.entry { path := [routesName], last := name } (.text text), []) := by
  have hcontent : lineContent (oneRoute name text) =
      (keyValue (value (depthLimit - 1)) (oneRoute name text)).map
        fun read => (.entry read.1.1 read.1.2, read.2) := rfl
  have hline : line (oneRoute name text) = (lineContent (oneRoute name text) >>= fun read =>
      lineEnd read.2 >>= fun rest => some (read.1, rest.2)) := rfl
  rw [hline, hcontent, keyValue_oneRoute hname hbare htext]
  rfl

/-- The document lists its route and nothing else. -/
theorem routes?_oneRoute (hname : name ≠ []) (hbare : ∀ c ∈ name, isBare c = true)
    (htext : IsLiteral text) :
    routes? (oneRoute name text) = some (.ofList [(name, text)]) := by
  have hmark : Text.dropPrefix? [Document.byteOrderMark] (oneRoute name text) = none := rfl
  have hlines : lines? (oneRoute name text) =
      some [.entry { path := [routesName], last := name } (.text text)] := by
    have hmany := Reader.many_once (line_oneRoute hname hbare htext) (by simp [oneRoute]) rfl
    simp [lines?, hmany]
  have hdocument : Document.ofText? (oneRoute name text) =
      some [(routesName, .table .dotted [(name, .text text)])] := by
    simp only [Document.ofText?, hmark, Option.getD_none, hlines]
    rfl
  rw [routes?, hdocument]
  rfl

end Toml

theorem Table.ofToml_oneRoute {name text : Text} {pattern : Pattern} (hname : name ≠ [])
    (hbare : ∀ c ∈ name, Toml.isBare c = true) (htext : Toml.IsLiteral text)
    (hparse : Pattern.parse text = .ok pattern) :
    ofToml (Toml.oneRoute name text) = .ok (.ofList [(name, pattern)]) := by
  rw [ofToml, Toml.routes?_oneRoute hname hbare htext]
  show (insertText .empty (name, text) >>= fun table => Except.ok table) = _
  rw [insertText, hparse]
  rfl

end RoutePattern
