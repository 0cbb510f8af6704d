import RoutePattern.Proofs.Placement

/-!
# A pattern text is built from its own wildcards

Each wildcard can be given the text that stands for it in the pattern. If reading left the literals
as they are written, then every piece makes itself again, apart from an anchor, which makes nothing
(`placed_spelledText`). An anchor is last, so that the path that is built is the whole source text
without its method and without a last piece `{$}` (`build_spellings`).
-/

namespace RoutePattern.Pattern

/-- The wildcards as they are written, in order. -/
def spellings (pattern : Pattern) : List Text :=
  (pattern.segments.filter Segment.isWildcard).map Segment.display

/-- What a piece makes when a wildcard is given its own spelling. -/
def spelledText (piece : Text) : Text :=
  if piece = Segment.anchorText then [] else piece

/-! ## Piece by piece -/

theorem spelledText_of_ne {piece : Text} (h : Segment.ofSource piece ≠ .endAnchor) :
    spelledText piece = piece :=
  if_neg fun hpiece => h (Segment.ofSource_eq_endAnchor_iff.2 hpiece)

theorem spellings_eq_filter {pattern : Pattern} {pieces : List Text}
    (h : pattern.segments = pieces.map Segment.ofSource) :
    pattern.spellings = pieces.filter fun piece => (Segment.ofSource piece).isWildcard := by
  rw [spellings, h, List.filter_map, List.map_map]
  refine (List.map_congr_left ?_).trans (List.map_id _)
  intro piece hpiece
  exact Segment.display_ofSource (List.mem_filter.1 hpiece).2

theorem placed_spelledText {pieces : List Text}
    (hkept : ∀ piece ∈ pieces, ∀ text, Segment.ofSource piece = .literal text → text = piece) :
    Placed (pieces.map Segment.ofSource)
      (pieces.filter fun piece => (Segment.ofSource piece).isWildcard)
      (pieces.map spelledText) := by
  induction pieces with
  | nil => exact .nil
  | cons piece pieces ih =>
      have hlater := ih fun p hp => hkept p (List.mem_cons_of_mem _ hp)
      rw [List.map_cons, List.map_cons, List.filter_cons]
      cases hsegment : Segment.ofSource piece with
      | endAnchor =>
          have hpiece : spelledText piece = [] :=
            if_pos (Segment.ofSource_eq_endAnchor_iff.1 hsegment)
          rw [hpiece]
          exact .endAnchor hlater
      | single name =>
          rw [spelledText_of_ne (by simp [hsegment])]
          exact .wildcard rfl piece hlater
      | rest name =>
          rw [spelledText_of_ne (by simp [hsegment])]
          exact .wildcard rfl piece hlater
      | literal text =>
          rw [spelledText_of_ne (by simp [hsegment])]
          obtain rfl := hkept piece List.mem_cons_self text hsegment
          by_cases hslot : text = [] ∧ pieces.map Segment.ofSource = []
          · -- No wildcard is left, so that the slot stays empty, as it is written.
            obtain ⟨rfl, hnil⟩ := hslot
            obtain rfl := List.map_eq_nil_iff.1 hnil
            exact .emptySlot
          · exact .literal hslot hlater

/-- The pieces of an accepted text make it again up to the anchor. -/
theorem flatMap_spelledText {pieces : List Text}
    (hterminals : misplaced? (pieces.map Segment.ofSource) = none) :
    (pieces.map spelledText).flatMap ('/' :: ·) ++
        (if pieces.getLast? = some Segment.anchorText then Segment.anchorText else []) =
      pieces.flatMap ('/' :: ·) := by
  obtain rfl | ⟨front, last, rfl⟩ := pieces.eq_nil_or_concat
  · rfl
  · rw [List.concat_eq_append] at hterminals ⊢
    rw [List.map_append, List.map_singleton, misplaced?_concat, List.find?_eq_none] at hterminals
    have hfront : front.map spelledText = front := by
      refine (List.map_congr_left ?_).trans (List.map_id _)
      intro piece hpiece
      apply spelledText_of_ne
      intro hanchor
      exact hterminals _ (List.mem_map_of_mem hpiece) (by rw [hanchor]; rfl)
    have hlast : spelledText last ++
        (if last = Segment.anchorText then Segment.anchorText else []) = last := by
      unfold spelledText
      split
      · rename_i h
        exact h.symm
      · exact List.append_nil last
    rw [List.map_append, hfront, List.map_singleton, List.flatMap_append, List.flatMap_append,
      List.flatMap_singleton, List.flatMap_singleton, List.getLast?_concat, List.append_assoc,
      List.cons_append]
    simp only [Option.some.injEq, hlast]

/-! ## The whole text -/

/-- **Round trip of the source text.** If reading a pattern text leaves its literals as they are
written, then its own wildcards, as they are written, make of it the text that stands behind its
method, up to an anchor at the end. -/
theorem build_spellings {source host : Text} {method : Option Text} {pieces : List Text}
    {pattern : Pattern} (hcut : Cut source method host pieces)
    (hparse : parse source = .ok pattern)
    (hkept : ∀ piece ∈ pieces, ∀ text, Segment.ofSource piece = .literal text →
      Text.percentDecode piece = piece) :
    pattern.spellings = pieces.filter (fun piece => (Segment.ofSource piece).isWildcard) ∧
    ∃ url, pattern.build pattern.spellings = .ok url ∧
      source = method.elim [] (· ++ [' ']) ++ url ++
        (if pieces.getLast? = some ['{', '$', '}'] then ['{', '$', '}'] else []) := by
  obtain ⟨hterminals, rfl⟩ := hcut.parse_eq_ok_iff.1 hparse
  have hspellings := @spellings_eq_filter (ofCut source method host pieces) pieces rfl
  have hplaced : Placed (ofCut source method host pieces).segments
      (ofCut source method host pieces).spellings (pieces.map spelledText) := by
    rw [hspellings]
    apply placed_spelledText
    intro piece hpiece text hsegment
    rw [Segment.eq_percentDecode_of_literal hsegment]
    exact hkept piece hpiece text hsegment
  refine ⟨hspellings, _, hplaced.build_eq, ?_⟩
  have hpath := flatMap_spelledText hterminals
  calc source
      = method.elim [] (· ++ [' ']) ++ host ++ pieces.flatMap ('/' :: ·) := hcut.source_eq
    _ = method.elim [] (· ++ [' ']) ++
          (ofCut source method host pieces).assemble (pieces.map spelledText) ++
          (if pieces.getLast? = some ['{', '$', '}'] then ['{', '$', '}'] else []) := by
        show _ = _ ++ ((part? host).getD [] ++ _) ++ _
        rw [part?_getD_nil, ← hpath, List.append_assoc, List.append_assoc, List.append_assoc]
        rfl

/-- A host with an escape, stray signs and braces, an empty piece, and an anchor. -/
def stray : Pattern where
  source := "M h%41/./%ZZ{$}/{a}//{$}".toList
  method := some ['M']
  host := some "h%41".toList
  segments := [.literal ['.'], .literal "%ZZ{$}".toList, .single ['a'], .literal [], .endAnchor]

def strayPieces : List Text :=
  [['.'], "%ZZ{$}".toList, "{a}".toList, [], "{$}".toList]

theorem build_spellings_stray :
    Cut stray.source (some ['M']) "h%41".toList strayPieces ∧ parse stray.source = .ok stray ∧
    (∀ piece ∈ strayPieces, ∀ text, Segment.ofSource piece = .literal text →
      Text.percentDecode piece = piece) ∧
    stray.spellings = ["{a}".toList] ∧
    stray.build stray.spellings = .ok "h%41/./%ZZ{$}/{a}//".toList := by
  have hcut : Cut stray.source (some ['M']) "h%41".toList strayPieces := by
    refine ⟨rfl, nofun, ?_, by decide, by decide⟩
    intro m hm
    cases hm
    decide
  have hparse : parse stray.source = .ok stray := rfl
  have hplain : ∀ piece ∈ strayPieces, Text.percentDecode piece = piece := by decide
  have hkept : ∀ piece ∈ strayPieces, ∀ text, Segment.ofSource piece = .literal text →
      Text.percentDecode piece = piece := fun piece hpiece _ _ => hplain piece hpiece
  obtain ⟨hspellings, url, hbuild, hsource⟩ := build_spellings hcut hparse hkept
  have hurl : "M ".toList ++ "h%41/./%ZZ{$}/{a}//".toList ++ "{$}".toList =
      "M ".toList ++ url ++ "{$}".toList := hsource
  rw [← List.append_cancel_left (List.append_cancel_right hurl)] at hbuild
  exact ⟨hcut, hparse, hkept, hspellings, hbuild⟩

end RoutePattern.Pattern
