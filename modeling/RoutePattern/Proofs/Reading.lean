import RoutePattern.Proofs.WrittenForm

/-!
# What a text is read as, and why it is refused

A text has one cut, so that it is meaningful to speak of its method, its host and its pieces
(`Cut.unique`). A pattern that is read holds exactly these, one segment for each piece
(`parse_follows_unique_cut`). A text is refused for one reason only, a piece `{$}` or `{name...}`
before the last one, and the first such piece is the one that the error names
(`parse_refuses_first_offence`).
-/

namespace RoutePattern.Pattern

section UniqueCut

variable {source host host' : Text} {method method' : Option Text} {pieces pieces' : List Text}

/-! ## The only cut -/

theorem Cut.isSome_method_iff (h : Cut source method host pieces) :
    method.isSome = true ↔ ' ' ∈ source := by
  cases method with
  | none =>
      have hspace : ' ' ∉ source := h.no_space rfl
      simp [hspace]
  | some m =>
      have hsource := h.source_eq
      rw [hsource]
      simp

theorem Cut.unique (h : Cut source method host pieces) (h' : Cut source method' host' pieces') :
    method' = method ∧ host' = host ∧ pieces' = pieces := by
  -- The host and the pieces are what is split at the slashes, whichever cut they come from.
  have hsplit : (host', pieces') = (host, pieces) := h'.split_eq.symm.trans h.split_eq
  have hmethods := h'.cut?_eq.symm.trans h.cut?_eq
  obtain ⟨rfl, rfl⟩ := Prod.mk.inj hsplit
  refine ⟨?_, rfl, rfl⟩
  cases method with
  | none =>
      rw [Option.map_none, Option.map_eq_none_iff] at hmethods
      exact hmethods
  | some m =>
      rw [Option.map_some, Option.map_eq_some_iff] at hmethods
      obtain ⟨m', hm', heq⟩ := hmethods
      rw [hm', (Prod.mk.inj heq).1]

end UniqueCut

/-! ## What is read -/

/-- A pattern holds the parts of a cut text, and every piece in its own place. -/
structure Reads (source : Text) (method : Option Text) (host : Text) (pieces : List Text)
    (pattern : Pattern) : Prop where
  source_eq : pattern.source = source
  method_iff : ∀ m, pattern.method = some m ↔ method = some m ∧ m ≠ []
  host_iff : ∀ h, pattern.host = some h ↔ host = h ∧ h ≠ []
  segments_eq : pattern.segments = pieces.map Segment.ofSource
  length_eq : pattern.segments.length = pieces.length
  /-- Empty pieces and dots are neither merged nor resolved. -/
  plain : ∀ (position : Nat) (piece : Text), pieces[position]? = some piece →
    piece = [] ∨ piece = ['.'] ∨ piece = ['.', '.'] →
    pattern.segments[position]? = some (.literal piece)

theorem ofSource_plain {piece : Text} (h : piece = [] ∨ piece = ['.'] ∨ piece = ['.', '.']) :
    Segment.ofSource piece = .literal piece := by
  rcases h with rfl | rfl | rfl
  · rfl
  · rfl
  · rfl

theorem part?_eq_some_iff_eq {t part : Text} : part? t = some part ↔ t = part ∧ part ≠ [] := by
  rw [part?_eq_some_iff]
  constructor
  · rintro ⟨hne, rfl⟩
    exact ⟨rfl, hne⟩
  · rintro ⟨rfl, hne⟩
    exact ⟨hne, rfl⟩

theorem part?_getD_eq_some_iff (method : Option Text) (m : Text) :
    part? (method.getD []) = some m ↔ method = some m ∧ m ≠ [] := by
  rw [part?_eq_some_iff_eq]
  cases method with
  | none =>
      constructor
      · rintro ⟨rfl, hne⟩
        exact absurd rfl hne
      · rintro ⟨hnone, -⟩
        cases hnone
  | some t => rw [Option.getD_some, Option.some.injEq]

theorem reads_ofCut (source : Text) (method : Option Text) (host : Text) (pieces : List Text) :
    Reads source method host pieces (ofCut source method host pieces) := by
  refine ⟨rfl, part?_getD_eq_some_iff method, ?_, rfl, List.length_map _, ?_⟩
  · intro h
    exact part?_eq_some_iff_eq
  · intro position piece hpiece hplain
    show (pieces.map Segment.ofSource)[position]? = some (.literal piece)
    rw [List.getElem?_map, hpiece, Option.map_some, ofSource_plain hplain]

/-- **The grammar of patterns.** Every text has one cut into method, host and pieces, with a method
exactly if it holds a space, and whatever pattern it is read as holds the parts of this cut. -/
theorem parse_follows_unique_cut (source : Text) :
    ∃ method host pieces, Cut source method host pieces ∧
      (∀ method' host' pieces', Cut source method' host' pieces' →
        method' = method ∧ host' = host ∧ pieces' = pieces) ∧
      (method.isSome = true ↔ ' ' ∈ source) ∧
      ∀ pattern, parse source = .ok pattern → Reads source method host pieces pattern := by
  obtain ⟨method, host, pieces, hcut⟩ := exists_cut source
  refine ⟨method, host, pieces, hcut, ?_, hcut.isSome_method_iff, ?_⟩
  · intro method' host' pieces' hcut'
    exact hcut.unique hcut'
  · intro pattern hparse
    obtain ⟨-, rfl⟩ := hcut.parse_eq_ok_iff.1 hparse
    exact reads_ofCut source method host pieces

/-- A slash before the first space, a second space, and empty pieces and dots in the path. -/
theorem parse_follows_unique_cut_spaced :
    ∃ pattern, parse "a/b  /..//{x}/".toList = .ok pattern ∧
      Reads "a/b  /..//{x}/".toList (some ['a', '/', 'b']) [' ']
        [['.', '.'], [], ['{', 'x', '}'], []] pattern := by
  have hcut : Cut "a/b  /..//{x}/".toList (some ['a', '/', 'b']) [' ']
      [['.', '.'], [], ['{', 'x', '}'], []] := by
    refine ⟨by decide, nofun, ?_, by decide, by decide⟩
    intro m hm
    cases hm
    decide
  obtain ⟨method, host, pieces, -, hunique, -, hreads⟩ :=
    parse_follows_unique_cut "a/b  /..//{x}/".toList
  obtain ⟨rfl, rfl, rfl⟩ := hunique _ _ _ hcut
  exact ⟨_, rfl, hreads _ rfl⟩

/-! ## What is refused -/

/-- A piece that has to be the last one, with the error that a text makes in which it is not. -/
inductive Offence (source : Text) : Text → PatternError → Prop
  | endAnchor : Offence source ['{', '$', '}'] (.endAnchorNotLast source)
  | rest {name : Text} (hname : isWildcardName name = true) :
      Offence source ('{' :: (name ++ ['.', '.', '.', '}'])) (.restNotLast source name)

theorem offence_iff {source piece : Text} {error : PatternError} :
    Offence source piece error ↔ (Segment.ofSource piece).isTerminal = true ∧
      misplacedError source (Segment.ofSource piece) = error := by
  constructor
  · intro h
    cases h with
    | endAnchor =>
        have hsegment : Segment.ofSource ['{', '$', '}'] = .endAnchor :=
          Segment.ofSource_anchorText
        rw [hsegment]
        exact ⟨rfl, rfl⟩
    | @rest name hname =>
        have hsegment : Segment.ofSource ('{' :: (name ++ ['.', '.', '.', '}'])) = .rest name :=
          Segment.ofSource_rest hname
        rw [hsegment]
        exact ⟨rfl, rfl⟩
  · rintro ⟨hterminal, rfl⟩
    rcases Segment.ofSource_cases piece with ⟨rfl, hs⟩ | ⟨name, hname, rfl, hs⟩ |
      ⟨name, -, -, hs⟩ | hs
    · rw [hs]
      exact .endAnchor
    · rw [hs]
      exact .rest hname
    · rw [hs] at hterminal
      cases hterminal
    · rw [hs] at hterminal
      cases hterminal

theorem not_offence {source piece : Text} {error : PatternError}
    (h : (Segment.ofSource piece).isTerminal = false) : ¬ Offence source piece error := by
  intro hoffence
  rw [(offence_iff.1 hoffence).1] at h
  cases h

section Refusal

variable {source host : Text} {method : Option Text} {pieces : List Text}

theorem Cut.parse_eq_error_iff (h : Cut source method host pieces) {error : PatternError} :
    parse source = .error error ↔
      ∃ segment, misplaced? (pieces.map Segment.ofSource) = some segment ∧
        misplacedError source segment = error := by
  rw [h.parse_eq]
  cases misplaced? (pieces.map Segment.ofSource) with
  | none => simp
  | some segment => simp

/-- The error is the one of the first piece that has to be last and is not. -/
theorem Cut.parse_eq_error_iff_first (h : Cut source method host pieces) {error : PatternError} :
    parse source = .error error ↔
      ∃ position piece, pieces[position]? = some piece ∧ position + 1 < pieces.length ∧
        Offence source piece error ∧
        ∀ earlier < position, ∀ piece' error', pieces[earlier]? = some piece' →
          ¬ Offence source piece' error' := by
  rw [h.parse_eq_error_iff]
  constructor
  · rintro ⟨segment, hmisplaced, herror⟩
    obtain ⟨position, hat, hlast, hterminal, hearlier⟩ := misplaced?_eq_some_iff.1 hmisplaced
    rw [List.length_map] at hlast
    rw [List.getElem?_map, Option.map_eq_some_iff] at hat
    obtain ⟨piece, hpiece, rfl⟩ := hat
    refine ⟨position, piece, hpiece, hlast, offence_iff.2 ⟨hterminal, herror⟩, ?_⟩
    intro earlier hlt piece' error' hpiece'
    have hat' : (pieces.map Segment.ofSource)[earlier]? = some (Segment.ofSource piece') := by
      rw [List.getElem?_map, hpiece', Option.map_some]
    exact not_offence (hearlier earlier hlt _ hat')
  · rintro ⟨position, piece, hpiece, hlast, hoffence, hearlier⟩
    obtain ⟨hterminal, herror⟩ := offence_iff.1 hoffence
    refine ⟨Segment.ofSource piece, misplaced?_eq_some_iff.2 ?_, herror⟩
    refine ⟨position, ?_, ?_, hterminal, ?_⟩
    · rw [List.getElem?_map, hpiece, Option.map_some]
    · rw [List.length_map]
      exact hlast
    · intro earlier hlt s hs
      rw [List.getElem?_map, Option.map_eq_some_iff] at hs
      obtain ⟨piece', hpiece', rfl⟩ := hs
      cases hterminal' : (Segment.ofSource piece').isTerminal with
      | false => rfl
      | true =>
          have hoffence' : Offence source piece' _ := offence_iff.2 ⟨hterminal', rfl⟩
          exact absurd hoffence' (hearlier earlier hlt piece' _ hpiece')

theorem mem_dropLast_of_getElem? {α : Type} {xs : List α} {position : Nat} {x : α}
    (hat : xs[position]? = some x) (hlast : position + 1 < xs.length) : x ∈ xs.dropLast := by
  have hbound : position < xs.length - 1 := Nat.lt_sub_of_add_lt hlast
  refine List.mem_of_getElem? (i := position) ?_
  rw [List.getElem?_dropLast, if_pos hbound]
  exact hat

theorem Cut.exists_error_of_offence (h : Cut source method host pieces) {position : Nat}
    {piece : Text} {error : PatternError} (hpiece : pieces[position]? = some piece)
    (hlast : position + 1 < pieces.length) (hoffence : Offence source piece error) :
    ∃ error', parse source = .error error' := by
  cases hparse : parse source with
  | error error' => exact ⟨error', rfl⟩
  | ok pattern =>
      have hplaced := misplaced?_eq_none_iff.1 (h.parse_eq_ok_iff.1 hparse).1
      rw [← List.map_dropLast] at hplaced
      have hmem : Segment.ofSource piece ∈ pieces.dropLast.map Segment.ofSource :=
        List.mem_map_of_mem (mem_dropLast_of_getElem? hpiece hlast)
      exact absurd hoffence (not_offence (hplaced _ hmem))

/-- **Rejection is exact.** A text is refused exactly if a piece `{$}` or `{name...}` stands before
the last one, and the error is then the one of the first such piece. -/
theorem parse_refuses_first_offence (h : Cut source method host pieces) :
    ((∃ error, parse source = .error error) ↔
      ∃ position piece error, pieces[position]? = some piece ∧ position + 1 < pieces.length ∧
        Offence source piece error) ∧
    ∀ error, parse source = .error error ↔
      ∃ position piece, pieces[position]? = some piece ∧ position + 1 < pieces.length ∧
        Offence source piece error ∧
        ∀ earlier < position, ∀ piece' error', pieces[earlier]? = some piece' →
          ¬ Offence source piece' error' := by
  refine ⟨⟨?_, ?_⟩, fun error => h.parse_eq_error_iff_first⟩
  · rintro ⟨error, herror⟩
    obtain ⟨position, piece, hpiece, hlast, hoffence, -⟩ := h.parse_eq_error_iff_first.1 herror
    exact ⟨position, piece, error, hpiece, hlast, hoffence⟩
  · rintro ⟨position, piece, error, hpiece, hlast, hoffence⟩
    exact h.exists_error_of_offence hpiece hlast hoffence

end Refusal

/-- Pieces that fall short of `{$}` and `{name...}`, and after them both of these. -/
def nearMisses : List Text :=
  [['{', '$'], "%".toList, "%7B%24%7D".toList, "{q}".toList, "{1...}".toList, "{q...}".toList,
    "{$}".toList, []]

/-- The near misses under a method and a host that would be offences as pieces. -/
def nearMissText : Text :=
  "{$} {h...}".toList ++ nearMisses.flatMap ('/' :: ·)

theorem parse_refuses_first_offence_nearMisses :
    Cut nearMissText (some "{$}".toList) "{h...}".toList nearMisses ∧
      parse nearMissText = .error (.restNotLast nearMissText ['q']) := by
  have hcut : Cut nearMissText (some "{$}".toList) "{h...}".toList nearMisses := by
    refine ⟨rfl, nofun, ?_, by decide, by decide⟩
    intro m hm
    cases hm
    decide
  have hearlier : ∀ piece ∈ nearMisses.take 5, (Segment.ofSource piece).isTerminal = false := by
    decide
  have hname : isWildcardName ['q'] = true := by decide
  refine ⟨hcut, ((parse_refuses_first_offence hcut).2 _).2 ?_⟩
  refine ⟨5, "{q...}".toList, rfl, by decide, .rest hname, ?_⟩
  intro earlier hlt piece' error' hpiece'
  have hmem : piece' ∈ nearMisses.take 5 := by
    refine List.mem_of_getElem? (i := earlier) ?_
    rw [List.getElem?_take_of_lt hlt]
    exact hpiece'
  exact not_offence (hearlier piece' hmem)

end RoutePattern.Pattern
