import RoutePattern.Pattern.Parser
import RoutePattern.Proofs.Classification

/-!
# The grammar of pattern texts

A text is cut in one way into a method with its space, a host, and the pieces that the slashes
open (`Cut`). Reading classifies the pieces one by one and refuses a text exactly when a segment
that has to be the last one is not (`Cut.parse_eq`, `misplaced?_eq_none_iff`). Everything that is
proved about reading rests on these two facts and never on how the text is cut.
-/

namespace RoutePattern.Pattern

/-! ## Cutting a text -/

/-- A text is its method, if it has a space, its host, and a slash before each of its pieces. -/
structure Cut (source : Text) (method : Option Text) (host : Text) (pieces : List Text) :
    Prop where
  source_eq : source = method.elim [] (· ++ [' ']) ++ host ++ pieces.flatMap ('/' :: ·)
  no_space : method = none → ' ' ∉ source
  method_no_space : ∀ m, method = some m → ' ' ∉ m
  host_no_slash : '/' ∉ host
  piece_no_slash : ∀ piece ∈ pieces, '/' ∉ piece

theorem exists_cut (source : Text) : ∃ method host pieces, Cut source method host pieces := by
  -- What follows the method is cut in the same way whether or not there is one.
  have hpath : ∀ path : Text, ∃ (host : Text) (pieces : List Text),
      path = host ++ pieces.flatMap ('/' :: ·) ∧ '/' ∉ host ∧ ∀ piece ∈ pieces, '/' ∉ piece :=
    fun path => ⟨(Text.split '/' path).1, (Text.split '/' path).2,
      (Text.split_fst_append '/' path).symm, Text.not_mem_split_fst '/' path,
      fun _ => Text.not_mem_of_mem_split_snd⟩
  cases hcut : Text.cut? ' ' source with
  | none =>
      obtain ⟨host, pieces, hsource, hhost, hpieces⟩ := hpath source
      have hspace := Text.cut?_eq_none_iff.1 hcut
      exact ⟨none, host, pieces, hsource, fun _ => hspace, nofun, hhost, hpieces⟩
  | some cut =>
      obtain ⟨m, path⟩ := cut
      obtain ⟨hsource, hspace⟩ := Text.eq_append_of_cut? hcut
      obtain ⟨host, pieces, rfl, hhost, hpieces⟩ := hpath path
      refine ⟨some m, host, pieces, ?_, nofun, ?_, hhost, hpieces⟩
      · simpa using hsource
      · intro m' hm'
        cases hm'
        exact hspace

namespace Cut

variable {source host : Text} {method : Option Text} {pieces : List Text}

theorem cut?_eq (h : Cut source method host pieces) :
    Text.cut? ' ' source = method.map fun m => (m, host ++ pieces.flatMap ('/' :: ·)) := by
  cases method with
  | none => exact Text.cut?_eq_none_iff.2 (h.no_space rfl)
  | some m =>
      have hsource : source = m ++ ' ' :: (host ++ pieces.flatMap ('/' :: ·)) := by
        simpa using h.source_eq
      rw [hsource, Text.cut?_append ' ' _ (h.method_no_space m rfl)]
      rfl

theorem cutMethod_eq (h : Cut source method host pieces) :
    cutMethod source = (method.getD [], host ++ pieces.flatMap ('/' :: ·)) := by
  rw [cutMethod, h.cut?_eq]
  cases method with
  | none => simpa using h.source_eq
  | some m => rfl

theorem split_eq (h : Cut source method host pieces) :
    Text.split '/' (cutMethod source).2 = (host, pieces) := by
  rw [h.cutMethod_eq]
  exact Text.split_flatMap h.host_no_slash h.piece_no_slash

end Cut

/-! ## Segments that are not last -/

theorem misplaced?_cons_cons (segment next : Segment) (later : List Segment) :
    misplaced? (segment :: next :: later) =
      if segment.isTerminal then some segment else misplaced? (next :: later) := rfl

theorem misplaced?_cons_eq_none_iff {segment : Segment} {segments : List Segment} :
    misplaced? (segment :: segments) = none ↔
      (segment.isTerminal = true → segments = []) ∧ misplaced? segments = none := by
  cases segments with
  | nil => simp [misplaced?]
  | cons next later =>
      rw [misplaced?_cons_cons]
      cases segment.isTerminal with
      | false => simp
      | true => simp

theorem misplaced?_eq_find? (segments : List Segment) :
    misplaced? segments = segments.dropLast.find? Segment.isTerminal := by
  induction segments with
  | nil => rfl
  | cons segment segments ih =>
      cases segments with
      | nil => rfl
      | cons next later =>
          rw [misplaced?_cons_cons, List.dropLast_cons_cons, List.find?_cons, ih]
          cases segment.isTerminal with
          | true => rfl
          | false => rfl

theorem misplaced?_concat (front : List Segment) (last : Segment) :
    misplaced? (front ++ [last]) = front.find? Segment.isTerminal := by
  rw [misplaced?_eq_find?, List.dropLast_concat]

/-- Nothing is misplaced exactly when all that has to be last stands last. -/
theorem misplaced?_eq_none_iff {segments : List Segment} :
    misplaced? segments = none ↔ ∀ segment ∈ segments.dropLast, segment.isTerminal = false := by
  rw [misplaced?_eq_find?, List.find?_eq_none]
  simp only [Bool.not_eq_true]

/-- The segment that is found misplaced is the first one that has to be last and is not. -/
theorem misplaced?_eq_some_iff {segments : List Segment} {segment : Segment} :
    misplaced? segments = some segment ↔
      ∃ position, segments[position]? = some segment ∧ position + 1 < segments.length ∧
        segment.isTerminal = true ∧
        ∀ earlier < position, ∀ s, segments[earlier]? = some s → s.isTerminal = false := by
  rw [misplaced?_eq_find?, List.find?_eq_some_iff_getElem]
  constructor
  · rintro ⟨hterminal, position, hbound, rfl, hearlier⟩
    have hlast : position + 1 < segments.length := by
      rw [List.length_dropLast] at hbound
      omega
    refine ⟨position, ?_, hlast, hterminal, ?_⟩
    · rw [List.getElem_dropLast]
      exact List.getElem?_eq_getElem _
    · intro earlier hlt s hs
      obtain ⟨hearly, rfl⟩ := List.getElem?_eq_some_iff.1 hs
      have hnot := hearlier earlier hlt
      rw [List.getElem_dropLast, Bool.not_eq_true'] at hnot
      exact hnot
  · rintro ⟨position, hat, hlast, hterminal, hearlier⟩
    obtain ⟨hbound, rfl⟩ := List.getElem?_eq_some_iff.1 hat
    have hbefore : position < segments.dropLast.length := by
      rw [List.length_dropLast]
      omega
    refine ⟨hterminal, position, hbefore, List.getElem_dropLast _, ?_⟩
    intro earlier hlt
    rw [List.getElem_dropLast, Bool.not_eq_true']
    exact hearlier earlier hlt _ (List.getElem?_eq_getElem _)

/-- Segments that may stand anywhere are passed over. -/
theorem misplaced?_append {segments : List Segment}
    (h : ∀ segment ∈ segments, segment.isTerminal = false) (later : List Segment) :
    misplaced? (segments ++ later) = misplaced? later := by
  induction segments with
  | nil => rfl
  | cons segment segments ih =>
      have hsegment : segment.isTerminal = false := h segment List.mem_cons_self
      have hlater := ih fun s hs => h s (List.mem_cons_of_mem _ hs)
      rw [← hlater, List.cons_append]
      cases hrest : segments ++ later with
      | nil => rfl
      | cons next rest => simp [misplaced?_cons_cons, hsegment]

/-- A segment that has to be last is misplaced as soon as another one follows it. -/
theorem misplaced?_of_terminal {segments : List Segment} {last : Segment}
    (h : misplaced? segments = none) (hlast : segments.getLast? = some last)
    (hterminal : last.isTerminal = true) (next : Segment) (later : List Segment) :
    misplaced? (segments ++ next :: later) = some last := by
  obtain ⟨front, rfl⟩ := List.getLast?_eq_some_iff.1 hlast
  have hfront := misplaced?_eq_none_iff.1 h
  rw [List.dropLast_concat] at hfront
  rw [List.append_assoc, misplaced?_append hfront, List.singleton_append, misplaced?_cons_cons,
    if_pos hterminal]

theorem not_terminal_of_last {segments : List Segment} (h : misplaced? segments = none)
    (hlast : ∀ last, segments.getLast? = some last → last.isTerminal = false) :
    ∀ segment ∈ segments, segment.isTerminal = false := by
  intro segment hsegment
  obtain hnil | ⟨front, last, hconcat⟩ := segments.eq_nil_or_concat
  · rw [hnil] at hsegment
    cases hsegment
  · have hfront := misplaced?_eq_none_iff.1 h
    rw [hconcat, List.concat_eq_append] at hsegment hfront hlast
    rw [List.dropLast_concat] at hfront
    rcases List.mem_append.1 hsegment with hmem | hmem
    · exact hfront segment hmem
    · exact hlast segment (by simp [List.mem_singleton.1 hmem])

/-! ## Reading a cut text -/

theorem part?_getD_nil (t : Text) : (part? t).getD [] = t := by
  unfold part?
  split
  · rename_i h
    exact h.symm
  · rfl

def misplacedError (source : Text) : Segment → PatternError
  | .rest name => .restNotLast source name
  | _ => .endAnchorNotLast source

/-- The pattern of a cut text, whether or not it can be read. -/
def ofCut (source : Text) (method : Option Text) (host : Text) (pieces : List Text) : Pattern where
  source := source
  method := part? (method.getD [])
  host := part? host
  segments := pieces.map Segment.ofSource

section Reading

variable {source host : Text} {method : Option Text} {pieces : List Text}

/-- Reading in terms of the cut. -/
theorem Cut.parse_eq (h : Cut source method host pieces) :
    parse source =
      match misplaced? (pieces.map Segment.ofSource) with
      | some segment => .error (misplacedError source segment)
      | none => .ok (ofCut source method host pieces) := by
  rw [parse, h.split_eq, h.cutMethod_eq]
  cases hmisplaced : misplaced? (pieces.map Segment.ofSource) with
  | none => rfl
  | some segment => cases segment <;> rfl

theorem Cut.parse_eq_ok_iff (h : Cut source method host pieces) {pattern : Pattern} :
    parse source = .ok pattern ↔
      misplaced? (pieces.map Segment.ofSource) = none ∧
        ofCut source method host pieces = pattern := by
  rw [h.parse_eq]
  cases misplaced? (pieces.map Segment.ofSource) with
  | none => simp
  | some segment => simp

theorem Cut.parse_of_misplaced {segment : Segment} (h : Cut source method host pieces)
    (hmisplaced : misplaced? (pieces.map Segment.ofSource) = some segment) :
    parse source = .error (misplacedError source segment) := by
  rw [h.parse_eq, hmisplaced]

/-- A pattern that was read comes from the only cut of its text. -/
theorem exists_cut_of_parse {pattern : Pattern} (h : parse source = .ok pattern) :
    ∃ method host pieces, Cut source method host pieces ∧
      misplaced? (pieces.map Segment.ofSource) = none ∧
      ofCut source method host pieces = pattern := by
  obtain ⟨method, host, pieces, hcut⟩ := exists_cut source
  exact ⟨method, host, pieces, hcut, hcut.parse_eq_ok_iff.1 h⟩

/-- A pattern keeps the text that it was read from. -/
theorem source_of_parse {pattern : Pattern} (h : parse source = .ok pattern) :
    pattern.source = source := by
  obtain ⟨method, host, pieces, -, -, rfl⟩ := exists_cut_of_parse h
  rfl

/-- Different texts are read as different patterns. -/
theorem eq_iff_of_parse {source' : Text} {pattern pattern' : Pattern}
    (h : parse source = .ok pattern) (h' : parse source' = .ok pattern') :
    pattern = pattern' ↔ source = source' := by
  constructor
  · rintro rfl
    exact (source_of_parse h).symm.trans (source_of_parse h')
  · rintro rfl
    exact Except.ok.inj (h.symm.trans h')

end Reading

end RoutePattern.Pattern
