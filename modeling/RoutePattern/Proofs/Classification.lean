import RoutePattern.Proofs.Escapes
import RoutePattern.Segment

/-!
# What a segment's source text says

The shapes `{$}`, `{name...}` and `{name}` exclude one another, because no wildcard name holds a
dollar sign or a dot (`ofSource_cases`). A segment whose name is a wildcard name is read back from
its source text (`ofSource_source`), a literal because its escapes leave no brace to be seen.
-/

namespace RoutePattern

/-! ## Wildcard names -/

theorem of_mem_wildcardName {name : Text} (h : isWildcardName name = true) {c : Char}
    (hc : c ∈ name) : (Unicode.isAlphanumeric c || c == '_') = true := by
  cases name with
  | nil => cases hc
  | cons first later =>
      rw [isWildcardName, Bool.and_eq_true, List.all_eq_true] at h
      rcases List.mem_cons.1 hc with rfl | hc
      · rcases Bool.or_eq_true_iff.1 h.1 with hletter | hunderscore
        · rw [Unicode.isAlphanumeric, hletter]
          rfl
        · rw [hunderscore, Bool.or_true]
      · exact h.2 c hc

theorem not_mem_wildcardName {name : Text} (h : isWildcardName name = true) {c : Char}
    (hc : (Unicode.isAlphanumeric c || c == '_') = false) : c ∉ name := by
  intro hmem
  rw [of_mem_wildcardName h hmem] at hc
  cases hc

namespace Segment

/-! ## The three shapes -/

theorem dropSuffix?_ellipsis {name : Text} (h : isWildcardName name = true) :
    Text.dropSuffix? ellipsis name = none := by
  rw [Option.eq_none_iff_forall_ne_some]
  intro t ht
  rw [Text.dropSuffix?_eq_some_iff] at ht
  refine not_mem_wildcardName h (c := '.') (by decide) ?_
  rw [ht]
  exact List.mem_append_right _ List.mem_cons_self

theorem braced_ne_anchorText {inner : Text} (h : '$' ∉ inner) :
    '{' :: (inner ++ ['}']) ≠ anchorText := by
  intro heq
  have hmem : '$' ∈ '{' :: (inner ++ ['}']) := heq ▸ by decide
  simp [h] at hmem

theorem ofSource_anchorText : ofSource anchorText = .endAnchor := by
  rw [ofSource, if_pos rfl]

theorem ofSource_single {name : Text} (h : isWildcardName name = true) :
    ofSource (display (.single name)) = .single name := by
  have hbraced : braced? (display (.single name)) = some name := braced?_eq_some_iff.2 rfl
  have hanchor : display (.single name) ≠ anchorText :=
    braced_ne_anchorText (not_mem_wildcardName h (by decide))
  rw [ofSource, if_neg hanchor, hbraced]
  simp only [dropSuffix?_ellipsis h, h, if_true]

theorem ofSource_rest {name : Text} (h : isWildcardName name = true) :
    ofSource (display (.rest name)) = .rest name := by
  have hbraced : braced? (display (.rest name)) = some (name ++ ellipsis) :=
    braced?_eq_some_iff.2 (by simp [display])
  have hdollar : '$' ∉ name ++ ellipsis := by
    have hname : '$' ∉ name := not_mem_wildcardName h (by decide)
    simp [hname, ellipsis]
  have hanchor : display (.rest name) ≠ anchorText := by
    simpa [display] using braced_ne_anchorText hdollar
  have hdots : Text.dropSuffix? ellipsis (name ++ ellipsis) = some name :=
    Text.dropSuffix?_eq_some_iff.2 rfl
  rw [ofSource, if_neg hanchor, hbraced]
  simp only [hdots, h, if_true]

theorem ofSource_literal {source : Text} (h : '{' ∉ source) :
    ofSource source = .literal (Text.percentDecode source) := by
  have hanchor : source ≠ anchorText := by
    rintro rfl
    exact h List.mem_cons_self
  have hbraced : braced? source = none := by
    rw [Option.eq_none_iff_forall_ne_some]
    intro inner hinner
    rw [braced?_eq_some_iff.1 hinner] at h
    exact h List.mem_cons_self
  rw [ofSource, if_neg hanchor, hbraced]

/-- Escaped text is never syntax. -/
theorem ofSource_percentEncode (text : Text) :
    ofSource (Text.percentEncode text) = .literal text := by
  rw [ofSource_literal (Text.brace_not_mem_percentEncode text),
    Text.percentDecode_percentEncode]

/-- Every source text has one of the three shapes, with a wildcard name in it, or is a literal. -/
theorem ofSource_cases (source : Text) :
    (source = anchorText ∧ ofSource source = .endAnchor) ∨
    (∃ name, isWildcardName name = true ∧ source = display (.rest name) ∧
      ofSource source = .rest name) ∨
    (∃ name, isWildcardName name = true ∧ source = display (.single name) ∧
      ofSource source = .single name) ∨
    ofSource source = .literal (Text.percentDecode source) := by
  by_cases hanchor : source = anchorText
  · subst hanchor
    exact Or.inl ⟨rfl, ofSource_anchorText⟩
  · cases hbraced : braced? source with
    | none => simp [ofSource, hanchor, hbraced]
    | some inner =>
        have hsource := braced?_eq_some_iff.1 hbraced
        cases hdots : Text.dropSuffix? ellipsis inner with
        | none =>
            by_cases hname : isWildcardName inner = true
            · subst hsource
              exact Or.inr (Or.inr (Or.inl ⟨inner, hname, rfl, ofSource_single hname⟩))
            · simp [ofSource, hanchor, hbraced, hdots, hname]
        | some name =>
            by_cases hname : isWildcardName name = true
            · have hrest : source = display (.rest name) := by
                rw [hsource, Text.dropSuffix?_eq_some_iff.1 hdots, display, List.append_assoc]
              exact Or.inr (Or.inl ⟨name, hname, hrest, hrest ▸ ofSource_rest hname⟩)
            · simp [ofSource, hanchor, hbraced, hdots, hname]

theorem ofSource_eq_endAnchor_iff {source : Text} :
    ofSource source = .endAnchor ↔ source = anchorText := by
  constructor
  · intro h
    rcases ofSource_cases source with ⟨hsource, -⟩ | ⟨name, -, -, hs⟩ | ⟨name, -, -, hs⟩ | hs
    · exact hsource
    · cases hs.symm.trans h
    · cases hs.symm.trans h
    · cases hs.symm.trans h
  · rintro rfl
    exact ofSource_anchorText

/-- A percent sign has no place in the three shapes. -/
theorem ofSource_of_percent {source : Text} (h : '%' ∈ source) :
    ofSource source = .literal (Text.percentDecode source) := by
  have hname : ∀ {name : Text}, isWildcardName name = true → '%' ∉ name :=
    fun hname => not_mem_wildcardName hname (by decide)
  rcases ofSource_cases source with ⟨rfl, -⟩ | ⟨name, hwildcard, rfl, -⟩ |
    ⟨name, hwildcard, rfl, -⟩ | hs
  · exact absurd h (by decide)
  · exact absurd h (by simp [display, ellipsis, hname hwildcard])
  · exact absurd h (by simp [display, hname hwildcard])
  · exact hs

theorem eq_percentDecode_of_literal {source text : Text}
    (h : ofSource source = .literal text) : text = Text.percentDecode source := by
  rcases ofSource_cases source with ⟨-, hs⟩ | ⟨name, -, -, hs⟩ | ⟨name, -, -, hs⟩ | hs
  · cases hs.symm.trans h
  · cases hs.symm.trans h
  · cases hs.symm.trans h
  · exact literal.inj (h.symm.trans hs)

/-- A wildcard is displayed as it is written. -/
theorem display_ofSource {source : Text} (h : (ofSource source).isWildcard = true) :
    (ofSource source).display = source := by
  rcases ofSource_cases source with ⟨-, hs⟩ | ⟨name, -, hsource, hs⟩ |
    ⟨name, -, hsource, hs⟩ | hs
  · rw [hs] at h
    cases h
  · rw [hs, hsource]
  · rw [hs, hsource]
  · rw [hs] at h
    cases h

/-! ## Well-named segments -/

/-- The name of a wildcard is a wildcard name. -/
def WellNamed (segment : Segment) : Prop :=
  ∀ name, segment.name? = some name → isWildcardName name = true

theorem wellNamed_ofSource (source : Text) : (ofSource source).WellNamed := by
  intro name hname
  rcases ofSource_cases source with ⟨-, hs⟩ | ⟨n, hn, -, hs⟩ | ⟨n, hn, -, hs⟩ | hs
  · rw [hs] at hname
    cases hname
  · rw [hs] at hname
    cases hname
    exact hn
  · rw [hs] at hname
    cases hname
    exact hn
  · rw [hs] at hname
    cases hname

/-- A segment is read back from its source text. -/
theorem ofSource_source {segment : Segment} (h : segment.WellNamed) :
    ofSource segment.source = segment := by
  cases segment with
  | literal text => exact ofSource_percentEncode text
  | single name => exact ofSource_single (h name rfl)
  | rest name => exact ofSource_rest (h name rfl)
  | endAnchor => exact ofSource_anchorText

theorem slash_not_mem_source {segment : Segment} (h : segment.WellNamed) :
    '/' ∉ segment.source := by
  have hslash : ∀ {name : Text}, isWildcardName name = true → '/' ∉ name :=
    fun hname => not_mem_wildcardName hname (by decide)
  cases segment with
  | literal text => exact Text.slash_not_mem_percentEncode text
  | single name => simp [source, display, hslash (h name rfl)]
  | rest name => simp [source, display, ellipsis, hslash (h name rfl)]
  | endAnchor => decide

end Segment

end RoutePattern
