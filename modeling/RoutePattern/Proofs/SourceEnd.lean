import RoutePattern.Proofs.Arity
import RoutePattern.Proofs.Reading
import RoutePattern.Proofs.RepeatedDecoding
import RoutePattern.Proofs.Shapes
import RoutePattern.Proofs.TrailingSlash

/-!
# The end of a source text

Whether a path ends in a slash or in an anchor is asked of the segments, after all cuts and with the
escapes read, and can still be seen from the last characters of the source text. The text ends in a
slash and a piece exactly if this is the last piece of its cut (`Cut.ends_in_iff`), for no method
reaches behind a slash that has no space after it, and no host holds one. A piece is read as the
empty literal or as an anchor only if it is written so, because no decoded text is empty unless it
was (`hasTrailingSlash_ofCut_iff`, `isAnchored_ofCut_iff`).
-/

namespace RoutePattern.Pattern

section Source

variable {source host piece : Text} {method : Option Text} {pieces : List Text}

/-! ## The last piece -/

theorem Cut.ends_in_iff (h : Cut source method host pieces) (hslash : '/' ∉ piece)
    (hspace : ' ' ∉ piece) :
    (∃ front, source = front ++ '/' :: piece) ↔ pieces.getLast? = some piece := by
  constructor
  · rintro ⟨front, rfl⟩
    -- Up to the slash the text has an empty last piece, which the rest of it fills.
    obtain ⟨method', host', before, hcut⟩ :=
      @exists_cut_of_trailing (front ++ ['/']) List.getLast?_concat
    have hfilled := hcut.fill_last hslash hspace
    rw [← List.append_cons] at hfilled
    obtain ⟨-, -, rfl⟩ := h.unique hfilled
    exact List.getLast?_concat
  · intro hlast
    obtain ⟨before, rfl⟩ := List.getLast?_eq_some_iff.1 hlast
    refine ⟨method.elim [] (· ++ [' ']) ++ host ++ before.flatMap ('/' :: ·), ?_⟩
    rw [h.source_eq, List.flatMap_append, List.flatMap_singleton, ← List.append_assoc]

theorem getLast?_eq_slash_iff {t : Text} :
    t.getLast? = some '/' ↔ ∃ front, t = front ++ '/' :: ([] : Text) :=
  List.getLast?_eq_some_iff

/-! ## The last segment -/

theorem ofSource_eq_nil_iff : Segment.ofSource piece = .literal [] ↔ piece = [] := by
  constructor
  · intro h
    exact Text.percentDecode_eq_nil_iff.1 (Segment.eq_percentDecode_of_literal h).symm
  · rintro rfl
    rfl

theorem getLast?_segments_ofCut {segment : Segment} :
    (ofCut source method host pieces).segments.getLast? = some segment ↔
      ∃ piece, pieces.getLast? = some piece ∧ Segment.ofSource piece = segment := by
  rw [ofCut, List.getLast?_map, Option.map_eq_some_iff]

theorem hasTrailingSlash_ofCut_iff :
    (ofCut source method host pieces).hasTrailingSlash = true ↔ pieces.getLast? = some [] := by
  rw [hasTrailingSlash, beq_iff_eq, getLast?_segments_ofCut]
  simp only [ofSource_eq_nil_iff, exists_eq_right]

theorem isAnchored_ofCut_iff :
    (ofCut source method host pieces).isAnchored = true ↔
      pieces.getLast? = some Segment.anchorText := by
  rw [isAnchored, beq_iff_eq, getLast?_segments_ofCut]
  simp only [Segment.ofSource_eq_endAnchor_iff, exists_eq_right]

end Source

/-! ## The flags -/

/-- The flags of a pattern say how the pieces end as they are written. A path without pieces and a
last piece with an escape set neither. -/
structure FlagsOf (pieces : List Text) (pattern : Pattern) : Prop where
  trailing_iff : pattern.hasTrailingSlash = true ↔ pieces.getLast? = some []
  anchored_iff : pattern.isAnchored = true ↔ pieces.getLast? = some ['{', '$', '}']
  neither : pieces = [] ∨ (∃ piece, pieces.getLast? = some piece ∧ '%' ∈ piece) →
    pattern.hasTrailingSlash = false ∧ pattern.isAnchored = false

theorem flagsOf_ofCut (source : Text) (method : Option Text) (host : Text) (pieces : List Text) :
    FlagsOf pieces (ofCut source method host pieces) := by
  refine ⟨hasTrailingSlash_ofCut_iff, isAnchored_ofCut_iff, ?_⟩
  rintro (rfl | ⟨piece, hlast, hpercent⟩)
  · exact ⟨rfl, rfl⟩
  · rw [← Bool.not_eq_true, ← Bool.not_eq_true, hasTrailingSlash_ofCut_iff, isAnchored_ofCut_iff,
      hlast]
    constructor
    · rintro ⟨⟩
      cases hpercent
    · rintro ⟨⟩
      exact absurd hpercent (by decide)

theorem exists_build_of_succ_iff {pattern : Pattern} {values : List Text}
    (h : values.length = pattern.arity.required + 1) :
    (∃ url, pattern.build values = .ok url) ↔ pattern.hasTrailingSlash = true := by
  have htrailing : pattern.arity.trailing = pattern.hasTrailingSlash := rfl
  rw [exists_build_eq_ok_iff, h, Arity.max, htrailing]
  cases pattern.hasTrailingSlash with
  | true => simp
  | false => simp

/-- **The flags can be read off the source text.** A pattern has a trailing slash exactly if its
text ends in a slash, and is anchored exactly if its text ends in `/{$}`; one value more than it has
wildcards is placed in the first case only. Both are decided by the pieces of the path as they are
written: nothing in a method or a host and no escape makes a path end so. -/
theorem flags_read_off_source {source : Text} {pattern : Pattern}
    (h : parse source = .ok pattern) :
    (pattern.hasTrailingSlash = true ↔ source.getLast? = some '/') ∧
    (pattern.isAnchored = true ↔ ∃ front, source = front ++ ['/', '{', '$', '}']) ∧
    (∀ values : List Text, values.length = pattern.arity.required + 1 →
      ((∃ url, pattern.build values = .ok url) ↔ source.getLast? = some '/')) ∧
    ∀ method host pieces, Cut source method host pieces → FlagsOf pieces pattern := by
  obtain ⟨method, host, pieces, hcut, -, rfl⟩ := exists_cut_of_parse h
  have hslash : (ofCut source method host pieces).hasTrailingSlash = true ↔
      source.getLast? = some '/' := by
    rw [hasTrailingSlash_ofCut_iff, getLast?_eq_slash_iff,
      hcut.ends_in_iff List.not_mem_nil List.not_mem_nil]
  refine ⟨hslash, ?_, ?_, ?_⟩
  · rw [isAnchored_ofCut_iff]
    exact (hcut.ends_in_iff (by decide) (by decide)).symm
  · intro values hvalues
    exact (exists_build_of_succ_iff hvalues).trans hslash
  · intro method' host' pieces' hcut'
    obtain ⟨-, -, rfl⟩ := hcut.unique hcut'
    exact flagsOf_ofCut source method host pieces'

/-- A method and a host that end like a path, an escaped anchor behind them, an anchor with a space
after it, and one behind a method that is a slash. -/
theorem flags_read_off_source_lookalikes :
    (∃ pattern, parse "m/{$} h%2F/{x}/%7B%24%7D".toList = .ok pattern ∧
      pattern.hasTrailingSlash = false ∧ pattern.isAnchored = false) ∧
    (∃ pattern, parse "GET /{$} b/".toList = .ok pattern ∧ pattern.hasTrailingSlash = true ∧
      ∃ url, pattern.build [['v', '/']] = .ok url) ∧
    ∃ pattern, parse "/ /{$}".toList = .ok pattern ∧ pattern.isAnchored = true := by
  refine ⟨⟨_, rfl, ?_⟩, ⟨_, rfl, ?_⟩, ⟨_, rfl, ?_⟩⟩
  · have hcut : Cut "m/{$} h%2F/{x}/%7B%24%7D".toList (some "m/{$}".toList) "h%2F".toList
        ["{x}".toList, "%7B%24%7D".toList] := by
      refine ⟨rfl, nofun, ?_, by decide, by decide⟩
      intro m hm
      cases hm
      decide
    obtain ⟨-, -, -, hflags⟩ :=
      @flags_read_off_source "m/{$} h%2F/{x}/%7B%24%7D".toList _ rfl
    exact (hflags _ _ _ hcut).neither (Or.inr ⟨_, rfl, by decide⟩)
  · obtain ⟨htrailing, -, hextra, -⟩ :=
      @flags_read_off_source "GET /{$} b/".toList _ rfl
    exact ⟨htrailing.2 rfl, (hextra _ rfl).2 rfl⟩
  · obtain ⟨-, hanchored, -, -⟩ := @flags_read_off_source "/ /{$}".toList _ rfl
    exact hanchored.2 ⟨['/', ' '], rfl⟩

end RoutePattern.Pattern
