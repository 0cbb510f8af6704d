import RoutePattern.Proofs.Layout
import RoutePattern.Proofs.Printing
import RoutePattern.Proofs.Quoting
import RoutePattern.Proofs.WrittenForm

/-!
# The segments of a listing

The lines of a listing that stand for segments tell which segments these are. A segment is read back
from what is shown of it (`ofDescribed?_describe`), since only a literal begins with a quote. On its
line it starts in the same column whatever it is, so that the lines of two listings agree only if
the segments do (`segments_eq_of_mapIdx_eq`). Where the lines are is not plain: the text of the
pattern, its method and its host are printed as they are and may look like any part of a listing.
But the last heading is the true one, as no line for a segment is a heading
(`listedLines_of_lines_eq`).
-/

namespace RoutePattern

namespace Segment

/-! ## One segment -/

def ofDescribed? (t : Text) : Option Segment :=
  if t.head? = some '\x22' then (Text.readQuoted? t).map .literal else some (ofSource t)

theorem ofDescribed?_describe {segment : Segment} (h : segment.WellNamed) :
    ofDescribed? segment.describe = some segment := by
  cases segment with
  | literal text =>
      have hquote : (Text.quoted text).head? = some '\x22' := rfl
      rw [describe, ofDescribed?, if_pos hquote, Text.readQuoted?_quoted, Option.map_some]
  | single name => exact congrArg some (ofSource_single (h name rfl))
  | rest name => exact congrArg some (ofSource_rest (h name rfl))
  | endAnchor => exact congrArg some ofSource_anchorText

theorem eq_of_describe_eq {s t : Segment} (hs : s.WellNamed) (ht : t.WellNamed)
    (h : s.describe = t.describe) : s = t := by
  have hsome := ofDescribed?_describe hs
  rw [h, ofDescribed?_describe ht] at hsome
  exact (Option.some.inj hsome).symm

theorem newline_not_mem_describe {segment : Segment} (h : segment.WellNamed) :
    '\n' ∉ segment.describe := by
  have hname : ∀ {name : Text}, isWildcardName name = true → '\n' ∉ name :=
    fun hname => not_mem_wildcardName hname (by decide)
  cases segment with
  | literal text => exact Text.newline_not_mem_quoted text
  | single name => simp [describe, display, hname (h name rfl)]
  | rest name => simp [describe, display, ellipsis, hname (h name rfl)]
  | endAnchor => decide

/-! ## One line -/

def lineStart (index : Nat) : Text :=
  "    ".toList ++ Text.padLeft 2 (Text.ofNat index) ++ "  ".toList

theorem listingLine_eq (index : Nat) (segment : Segment) :
    segment.listingLine index =
      lineStart index ++ (Text.padRight 10 segment.kind ++ ' ' :: segment.describe) :=
  List.append_assoc _ _ _

theorem length_padRight_kind (segment : Segment) :
    (Text.padRight 10 segment.kind).length = 10 := by
  cases segment <;> rfl

/-- At one index, what is shown of any segment starts in the same column. -/
theorem describe_eq_of_listingLine_eq {index : Nat} {s t : Segment}
    (h : s.listingLine index = t.listingLine index) : s.describe = t.describe := by
  rw [listingLine_eq, listingLine_eq, List.append_right_inj] at h
  have hlength : (Text.padRight 10 s.kind).length = (Text.padRight 10 t.kind).length := by
    rw [length_padRight_kind, length_padRight_kind]
  exact (List.cons.inj (List.append_inj h hlength).2).2

theorem newline_not_mem_kind (segment : Segment) : '\n' ∉ segment.kind := by
  unfold kind
  split <;> decide

theorem newline_not_mem_listingLine {segment : Segment} (h : segment.WellNamed) (index : Nat) :
    '\n' ∉ segment.listingLine index := by
  have hstart : '\n' ∉ lineStart index := by
    simp [lineStart, Text.padLeft, Text.newline_not_mem_ofNat]
  rw [listingLine_eq]
  simp [Text.padRight, hstart, newline_not_mem_kind, newline_not_mem_describe h]

theorem exists_listingLine_eq_cons (index : Nat) (segment : Segment) :
    ∃ later, segment.listingLine index = ' ' :: ' ' :: ' ' :: later :=
  ⟨_, rfl⟩

end Segment

theorem Arity.newline_not_mem_describe (arity : Arity) : '\n' ∉ arity.describe := by
  unfold Arity.describe
  split
  · simp [Text.newline_not_mem_ofNat]
  · exact Text.newline_not_mem_ofNat _

namespace Pattern

/-! ## All lines -/

def segmentsHeading : Text := "  segments:".toList

/-- The lines of a listing that stand for segments: they are between the last heading of segments
and the last line of all. -/
def listedLines (output : Text) : List Text :=
  afterLast segmentsHeading (Text.lines output).dropLast

theorem segmentLines_eq_mapIdx (pattern : Pattern) :
    pattern.segmentLines = pattern.segments.mapIdx Segment.listingLine := by
  rw [segmentLines, List.mapIdx_eq_zipIdx_map]

theorem segmentsHeading_ne_listingLine (index : Nat) (segment : Segment) :
    segmentsHeading ≠ segment.listingLine index := by
  obtain ⟨later, hline⟩ := segment.exists_listingLine_eq_cons index
  rw [hline]
  intro h
  have hthird : 's' = ' ' := (List.cons.inj (List.cons.inj (List.cons.inj h).2).2).1
  exact absurd hthird (by decide)

/-- Each line for a segment is one line, and no heading. -/
theorem of_mem_segmentLines {pattern : Pattern}
    (h : ∀ segment ∈ pattern.segments, segment.WellNamed) {line : Text}
    (hline : line ∈ pattern.segmentLines) :
    '\n' ∉ line ∧ segmentsHeading ≠ line := by
  rw [segmentLines_eq_mapIdx] at hline
  obtain ⟨index, hindex, rfl⟩ := List.mem_mapIdx.1 hline
  exact ⟨Segment.newline_not_mem_listingLine (h _ (List.getElem_mem hindex)) index,
    segmentsHeading_ne_listingLine index _⟩

theorem newline_not_mem_valuesLine (pattern : Pattern) : '\n' ∉ pattern.valuesLine := by
  unfold valuesLine
  rw [List.mem_append, not_or]
  exact ⟨by decide, pattern.arity.newline_not_mem_describe⟩

/-- From the heading on, what is printed as a line is read as one. -/
theorem exists_lines_listing {pattern : Pattern}
    (h : ∀ segment ∈ pattern.segments, segment.WellNamed) :
    ∃ front, Text.lines (pattern.listingLines.flatMap (· ++ ['\n'])) =
      front ++ segmentsHeading :: (pattern.segmentLines ++ [pattern.valuesLine]) := by
  have hheads : pattern.headLines = pattern.headLines.dropLast ++ [segmentsHeading] := rfl
  have hlater : ∀ line ∈ segmentsHeading :: (pattern.segmentLines ++ [pattern.valuesLine]),
      '\n' ∉ line := by
    refine List.forall_mem_cons.2 ⟨by decide, List.forall_mem_append.2 ⟨?_, ?_⟩⟩
    · exact fun line hline => (of_mem_segmentLines h hline).1
    · exact List.forall_mem_singleton.2 pattern.newline_not_mem_valuesLine
  refine ⟨pattern.headLines.dropLast.flatMap Text.pieces, ?_⟩
  rw [Text.lines_flatMap, listingLines, hheads, List.append_assoc, List.append_assoc,
    List.singleton_append, List.flatMap_append, Text.flatMap_pieces_of_forall_not_mem hlater,
    ← hheads]

/-- The lines for the segments are found by the last heading, whatever is printed before it. -/
theorem listedLines_of_lines_eq {pattern : Pattern}
    (h : ∀ segment ∈ pattern.segments, segment.WellNamed) {output : Text} {front : List Text}
    (houtput : Text.lines output =
      front ++ segmentsHeading :: (pattern.segmentLines ++ [pattern.valuesLine])) :
    listedLines output = pattern.segmentLines := by
  have hheading : segmentsHeading ∉ pattern.segmentLines := fun hmem =>
    (of_mem_segmentLines h hmem).2 rfl
  rw [listedLines, houtput, ← List.cons_append, ← List.append_assoc, List.dropLast_concat,
    afterLast_append front hheading]

/-- Lines for segments, one after another from the first index, tell the segments. -/
theorem segments_eq_of_mapIdx_eq {segments segments' : List Segment}
    (hnames : ∀ segment ∈ segments, segment.WellNamed)
    (hnames' : ∀ segment ∈ segments', segment.WellNamed)
    (h : segments.mapIdx Segment.listingLine = segments'.mapIdx Segment.listingLine) :
    segments = segments' := by
  apply List.ext_getElem
  · simpa using congrArg List.length h
  · intro index hindex hindex'
    have hline : segments[index].listingLine index = segments'[index].listingLine index := by
      simpa [hindex, hindex'] using congrArg (fun lines => lines[index]?) h
    exact Segment.eq_of_describe_eq (hnames _ (List.getElem_mem hindex))
      (hnames' _ (List.getElem_mem hindex')) (Segment.describe_eq_of_listingLine_eq hline)

theorem ofRun_parse_text {source : Text} {pattern : Pattern} (h : parse source = .ok pattern)
    (files : Files) : Outcome.ofRun (Command.run files (.parse source false)) =
      { exitCode := 0, stdout := pattern.listingLines.flatMap (· ++ ['\n']), stderr := [] } := by
  rw [Command.run, Command.readPattern_eq h, Printing.check_ok_bind]
  exact Outcome.ofRun_of_ends (Printing.Ends.lines _)

/-- **The listing of a pattern tells its segments.** What is printed for a pattern text has a
heading and, below it, one line for each segment and a last line with the numbers of values. What is
shown of a segment has no line feed. The lines for the segments of two patterns are the same only if
the segments are, and what is shown of one segment is shown of no other, so that a literal never
looks like a wildcard, like an anchor or like another literal. -/
theorem listing_tells_segments {source : Text} {pattern : Pattern} (h : parse source = .ok pattern)
    (files : Files) :
    ∃ output front,
      Outcome.ofRun (Command.run files (.parse source false)) =
        { exitCode := 0, stdout := output, stderr := [] } ∧
      Text.lines output = front ++ segmentsHeading :: (listedLines output ++ [pattern.valuesLine]) ∧
      listedLines output = pattern.segments.mapIdx Segment.listingLine ∧
      (∀ segment ∈ pattern.segments, '\n' ∉ segment.describe) ∧
      ∀ source' pattern', parse source' = .ok pattern' →
        (listedLines (Outcome.ofRun (Command.run files (.parse source' false))).stdout =
          listedLines output ↔ pattern'.segments = pattern.segments) ∧
        ∀ s ∈ pattern.segments, ∀ t ∈ pattern'.segments, s.describe = t.describe → s = t := by
  have hnames := (expressible_of_parse h).names
  obtain ⟨front, hlines⟩ := exists_lines_listing hnames
  have hlisted := listedLines_of_lines_eq hnames hlines
  refine ⟨_, front, ofRun_parse_text h files, ?_, ?_, ?_, ?_⟩
  · rw [hlisted, hlines]
  · rw [hlisted, segmentLines_eq_mapIdx]
  · exact fun segment hsegment => Segment.newline_not_mem_describe (hnames segment hsegment)
  · intro source' pattern' h'
    have hnames' := (expressible_of_parse h').names
    obtain ⟨front', hlines'⟩ := exists_lines_listing hnames'
    have hlisted' : listedLines (Outcome.ofRun (Command.run files (.parse source' false))).stdout =
        pattern'.segmentLines := by
      rw [ofRun_parse_text h']
      exact listedLines_of_lines_eq hnames' hlines'
    rw [hlisted', hlisted, segmentLines_eq_mapIdx, segmentLines_eq_mapIdx]
    refine ⟨⟨segments_eq_of_mapIdx_eq hnames' hnames, fun hsame => by rw [hsame]⟩, ?_⟩
    intro s hs t ht
    exact Segment.eq_of_describe_eq (hnames s hs) (hnames' t ht)

/-- A host that looks like a heading, and literals that look like a wildcard and like two lines. -/
def misleading : Pattern where
  source := " h\n  segments:/%7Bid%7D/{id}/%0A".toList
  method := none
  host := some "h\n  segments:".toList
  segments := [.literal "{id}".toList, .single "id".toList, .literal ['\n']]

theorem listing_tells_segments_misleading :
    parse misleading.source = .ok misleading ∧
    ∃ output,
      Outcome.ofRun (Command.run .empty (.parse misleading.source false)) =
        { exitCode := 0, stdout := output, stderr := [] } ∧
      (listedLines output).length = 3 ∧
      listedLines (Outcome.ofRun (Command.run .empty
        (.parse "/{id}/{id}/%0A".toList false))).stdout ≠ listedLines output := by
  have hparse : parse misleading.source = .ok misleading := by decide +kernel
  obtain ⟨output, front, hrun, -, hlisted, -, hothers⟩ :=
    listing_tells_segments hparse .empty
  obtain ⟨hsame, -⟩ := hothers "/{id}/{id}/%0A".toList
    { source := "/{id}/{id}/%0A".toList, method := none, host := none,
      segments := [.single "id".toList, .single "id".toList, .literal ['\n']] } (by decide +kernel)
  refine ⟨hparse, output, hrun, ?_, fun heq => absurd (hsame.1 heq) (by decide)⟩
  rw [hlisted, List.length_mapIdx]
  rfl

end Pattern

end RoutePattern
