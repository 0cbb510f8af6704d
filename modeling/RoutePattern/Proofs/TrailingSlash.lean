import RoutePattern.Proofs.Mounting
import RoutePattern.Proofs.Substitution

/-!
# A trailing slash is an optional wildcard for the rest

A text that ends in a slash has an empty last piece. What is written behind it fills that piece and
moves no other cut (`Cut.fill_last`), so that the three texts with nothing, `{name...}` and `{$}`
there differ in their last segment only. All of them are read or none is, and the values in front of
the last segment are placed alike; the slot takes one value more, as `{name...}` does, or stays
empty, as `{$}` does (`trailingSlash_eq_rest`).
-/

namespace RoutePattern.Pattern

/-! ## The last piece -/

theorem eq_nil_of_getLast?_append {front last : Text}
    (hslash : (front ++ last).getLast? = some '/') (hlast : '/' ∉ last) : last = [] := by
  by_contra hne
  rw [List.getLast?_append_of_ne_nil front hne] at hslash
  exact hlast (List.mem_of_getLast? hslash)

theorem exists_cut_of_trailing {source : Text} (hslash : source.getLast? = some '/') :
    ∃ method host front, Cut source method host (front ++ [[]]) := by
  obtain ⟨method, host, pieces, hcut⟩ := exists_cut source
  have hsource := hcut.source_eq
  obtain rfl | ⟨front, last, rfl⟩ := pieces.eq_nil_or_concat
  · -- Without pieces the text ends in its host, or in the space behind its method.
    rw [List.flatMap_nil, List.append_nil] at hsource
    have hhost : host = [] := by
      rw [hsource] at hslash
      exact eq_nil_of_getLast?_append hslash hcut.host_no_slash
    rw [hhost, List.append_nil] at hsource
    rw [hsource] at hslash
    cases method with
    | none => simp at hslash
    | some m => simp at hslash
  · rw [List.concat_eq_append] at hsource hcut
    refine ⟨method, host, front, ?_⟩
    have hlast : last = [] := by
      rw [hsource, List.flatMap_append, List.flatMap_singleton, ← List.append_assoc,
        List.append_cons] at hslash
      exact eq_nil_of_getLast?_append hslash (hcut.piece_no_slash last (by simp))
    exact hlast ▸ hcut

theorem Cut.fill_last {source host piece : Text} {method : Option Text} {front : List Text}
    (h : Cut source method host (front ++ [[]])) (hslash : '/' ∉ piece) (hspace : ' ' ∉ piece) :
    Cut (source ++ piece) method host (front ++ [piece]) := by
  have hreplaced := h.replace hslash hspace
  have hsource : source ++ piece =
      method.elim [] (· ++ [' ']) ++ host ++ (front ++ [piece]).flatMap ('/' :: ·) := by
    rw [h.source_eq]
    simp
  rw [hsource]
  exact hreplaced

/-! ## The last segment -/

section LastSegment

variable {source host piece : Text} {method : Option Text} {front : List Text} {last : Segment}

theorem Cut.parse_concat (h : Cut source method host (front ++ [piece]))
    (hlast : Segment.ofSource piece = last) :
    parse source =
      match (front.map Segment.ofSource).find? Segment.isTerminal with
      | some segment => .error (misplacedError source segment)
      | none => .ok { source, method := part? (method.getD []), host := part? host,
                      segments := front.map Segment.ofSource ++ [last] } := by
  have hsegments : (front ++ [piece]).map Segment.ofSource =
      front.map Segment.ofSource ++ [last] := by
    rw [List.map_append, List.map_singleton, hlast]
  have hparse := h.parse_eq
  rw [ofCut, hsegments, misplaced?_concat] at hparse
  exact hparse

end LastSegment

/-- The last segment adds its text to the texts of the segments before it. -/
theorem build_concat {pattern : Pattern} {front : List Segment} {last : Segment}
    {vs ws ts : List Text} {text : Text} (hsegments : pattern.segments = front ++ [last])
    (hfront : Placed front vs ts) (hcount : vs.length = front.countP Segment.isWildcard)
    (hlast : Placed [last] ws [text]) :
    pattern.build (vs ++ ws) =
      .ok (pattern.host.getD [] ++ ts.flatMap ('/' :: ·) ++ '/' :: text) := by
  have hplaced : Placed pattern.segments (vs ++ ws) (ts ++ [text]) :=
    hsegments ▸ hfront.append hlast (List.cons_ne_nil _ _) hcount
  rw [hplaced.build_eq, assemble, List.flatMap_append, List.append_assoc]
  simp

/-- Patterns that differ in their last segment only make the same paths of the same values, with an
empty value where a wildcard has to take one. -/
theorem builds_of_last {slashed rested anchored : Pattern} (front : List Segment) (name : Text)
    (hslashed : slashed.segments = front ++ [.literal []])
    (hrested : rested.segments = front ++ [.rest name])
    (hanchored : anchored.segments = front ++ [.endAnchor])
    (hrested_host : rested.host = slashed.host) (hanchored_host : anchored.host = slashed.host)
    {vs : List Text} (hrequired : vs.length = slashed.arity.required) :
    (∀ v, ∃ url, slashed.build (vs ++ [v]) = .ok url ∧ rested.build (vs ++ [v]) = .ok url) ∧
    ∃ url, slashed.build vs = .ok url ∧ anchored.build vs = .ok url ∧
      rested.build (vs ++ [[]]) = .ok url := by
  have hcount : vs.length = front.countP Segment.isWildcard := by
    rw [hrequired, arity, hslashed, List.countP_append]
    rfl
  obtain ⟨ts, hts⟩ := exists_placed (Nat.le_of_eq hcount.symm)
    (Nat.le_trans (Nat.le_of_eq hcount) (Nat.le_add_right _ _))
  have hrest : ∀ v, rested.build (vs ++ [v]) =
      .ok (slashed.host.getD [] ++ ts.flatMap ('/' :: ·) ++ '/' :: v) := by
    intro v
    rw [← hrested_host]
    exact build_concat hrested hts hcount (.wildcard rfl v .nil)
  constructor
  · intro v
    exact ⟨_, build_concat hslashed hts hcount (.filledSlot v), hrest v⟩
  · have hempty := build_concat hslashed hts hcount .emptySlot
    have hclosed := build_concat hanchored hts hcount (.endAnchor .nil)
    rw [List.append_nil] at hempty hclosed
    rw [hanchored_host] at hclosed
    exact ⟨_, hempty, hclosed, hrest []⟩

/-- **A trailing slash is an anonymous optional wildcard for the rest.** A text that ends in a slash
is read or refused together with the texts that have `{name...}` or `{$}` behind it, and then for
the same segment. Where they are read, the slot takes a value as `{name...}` does, and without one
it makes the path that `{$}` makes, and `{name...}` of an empty value. -/
theorem trailingSlash_eq_rest {source name : Text} (hslash : source.getLast? = some '/')
    (hname : isWildcardName name = true) :
    (∃ segment : Segment, segment.isTerminal = true ∧
      parse source = .error (misplacedError source segment) ∧
      parse (source ++ '{' :: (name ++ ['.', '.', '.', '}'])) =
        .error (misplacedError (source ++ '{' :: (name ++ ['.', '.', '.', '}'])) segment) ∧
      parse (source ++ ['{', '$', '}']) =
        .error (misplacedError (source ++ ['{', '$', '}']) segment)) ∨
    ∃ slashed rested anchored, parse source = .ok slashed ∧
      parse (source ++ '{' :: (name ++ ['.', '.', '.', '}'])) = .ok rested ∧
      parse (source ++ ['{', '$', '}']) = .ok anchored ∧
      ∀ vs : List Text, vs.length = slashed.arity.required →
        (∀ v, ∃ url, slashed.build (vs ++ [v]) = .ok url ∧ rested.build (vs ++ [v]) = .ok url) ∧
        ∃ url, slashed.build vs = .ok url ∧ anchored.build vs = .ok url ∧
          rested.build (vs ++ [[]]) = .ok url := by
  obtain ⟨method, host, front, hcut⟩ := exists_cut_of_trailing hslash
  have hrest : Cut (source ++ '{' :: (name ++ ['.', '.', '.', '}'])) method host
      (front ++ ['{' :: (name ++ ['.', '.', '.', '}'])]) := by
    have hslash : '/' ∉ name := not_mem_wildcardName hname (by decide)
    have hspace : ' ' ∉ name := not_mem_wildcardName hname (by decide)
    exact hcut.fill_last (by simp [hslash]) (by simp [hspace])
  have hanchor : Cut (source ++ ['{', '$', '}']) method host (front ++ [['{', '$', '}']]) :=
    hcut.fill_last (by decide) (by decide)
  have hempty : Segment.ofSource [] = .literal [] := rfl
  rw [hcut.parse_concat hempty, hrest.parse_concat (Segment.ofSource_rest hname),
    hanchor.parse_concat Segment.ofSource_anchorText]
  -- Whether a segment is misplaced is decided in front of the last one, in the same place.
  cases hfind : (front.map Segment.ofSource).find? Segment.isTerminal with
  | some segment => exact Or.inl ⟨segment, List.find?_some hfind, rfl, rfl, rfl⟩
  | none =>
      refine Or.inr ⟨_, _, _, rfl, rfl, rfl, ?_⟩
      intro vs hrequired
      refine builds_of_last (front.map Segment.ofSource) name ?_ ?_ ?_ ?_ ?_ hrequired <;> rfl

/-- A slash behind an empty piece, and one behind an anchor. -/
theorem trailingSlash_eq_rest_emptyPiece :
    (∃ slashed rested anchored, parse "GET h/{a}//".toList = .ok slashed ∧
      parse "GET h/{a}//{é...}".toList = .ok rested ∧
      parse "GET h/{a}//{$}".toList = .ok anchored ∧
      ∃ url, slashed.build [['1'], ['x', '/']] = .ok url ∧
        rested.build [['1'], ['x', '/']] = .ok url) ∧
    ∃ segment, parse "/{$}/".toList = .error (misplacedError "/{$}/".toList segment) ∧
      parse "/{$}/{$}".toList = .error (misplacedError "/{$}/{$}".toList segment) := by
  have hname : isWildcardName ['é'] = true := by decide
  constructor
  · have hslash : "GET h/{a}//".toList.getLast? = some '/' := rfl
    rcases trailingSlash_eq_rest hslash hname with ⟨segment, -, herror, -⟩ |
      ⟨slashed, rested, anchored, hslashed, hrested, hanchored, hbuild⟩
    · cases herror
    · refine ⟨slashed, rested, anchored, hslashed, hrested, hanchored, ?_⟩
      have hrequired : [['1']].length = slashed.arity.required := by
        cases hslashed
        rfl
      exact (hbuild [['1']] hrequired).1 ['x', '/']
  · have hslash : "/{$}/".toList.getLast? = some '/' := rfl
    rcases trailingSlash_eq_rest hslash hname with ⟨segment, -, herror, -, hanchored⟩ |
      ⟨slashed, -, -, hslashed, -, -, -⟩
    · exact ⟨segment, herror, hanchored⟩
    · cases hslashed

end RoutePattern.Pattern
