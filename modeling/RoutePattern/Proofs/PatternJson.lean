import RoutePattern.Proofs.Grammar
import RoutePattern.Proofs.JsonReadBack
import RoutePattern.Proofs.Printing

/-!
# Patterns as JSON

The JSON of a pattern holds all of it. Here it is said once more what a segment looks like as JSON
(`Segment.Viewed`), and a pattern is taken from JSON by the names of the members (`ofJson?`). What
is printed of a pattern is read as JSON and taken apart again, so that the pattern comes back, with
the text that it was read from (`json_reads_back`).
-/

namespace RoutePattern

/-! ## Parts of JSON -/

namespace Json

def member? (name : Text) : Json → Option Json
  | .object members => members.lookup name
  | _ => none

def text? : Json → Option Text
  | .string t => some t
  | _ => none

/-- The text of a string, or no text for null. -/
def optionalText? : Json → Option (Option Text)
  | .null => some none
  | .string t => some (some t)
  | _ => none

def items? : Json → Option (List Json)
  | .array items => some items
  | _ => none

theorem ofText?_eq_elim (t : Option Text) : ofText? t = t.elim .null .string := by
  cases t with
  | none => rfl
  | some t => rfl

theorem optionalText?_ofText? (t : Option Text) : optionalText? (ofText? t) = some t := by
  cases t with
  | none => rfl
  | some t => rfl

end Json

/-! ## Segments -/

namespace Segment

/-- The JSON of a segment: its kind, and its text or name if it has any. -/
inductive Viewed : Segment → Json → Prop
  | literal (text : Text) : Viewed (.literal text)
      (.object [("kind".toList, .string "literal".toList), ("value".toList, .string text)])
  | single (name : Text) : Viewed (.single name)
      (.object [("kind".toList, .string "single".toList), ("value".toList, .string name)])
  | rest (name : Text) : Viewed (.rest name)
      (.object [("kind".toList, .string "rest".toList), ("value".toList, .string name)])
  | endAnchor : Viewed .endAnchor (.object [("kind".toList, .string "end_anchor".toList)])

def ofKind? (kind : Text) (value : Option Json) : Option Segment :=
  match value with
  | none => if kind = "end_anchor".toList then some .endAnchor else none
  | some value => do
    let content ← value.text?
    if kind = "literal".toList then some (.literal content)
    else if kind = "single".toList then some (.single content)
    else if kind = "rest".toList then some (.rest content)
    else none

/-- The segment that JSON stands for. -/
def ofJson? (json : Json) : Option Segment := do
  let kind ← (← json.member? "kind".toList).text?
  ofKind? kind (json.member? "value".toList)

theorem viewed_toJson (segment : Segment) : Viewed segment segment.toJson := by
  cases segment with
  | literal text => exact .literal text
  | single name => exact .single name
  | rest name => exact .rest name
  | endAnchor => exact .endAnchor

theorem viewed_map_toJson (segments : List Segment) :
    List.Forall₂ Viewed segments (segments.map toJson) := by
  induction segments with
  | nil => exact .nil
  | cons segment segments ih => exact .cons segment.viewed_toJson ih

theorem Viewed.ofJson?_eq {segment : Segment} {json : Json} (h : Viewed segment json) :
    ofJson? json = some segment := by
  cases h with
  | literal text => rfl
  | single name => rfl
  | rest name => rfl
  | endAnchor => rfl

theorem mapM_ofJson?_of_viewed {segments : List Segment} {items : List Json}
    (h : List.Forall₂ Viewed segments items) : items.mapM ofJson? = some segments := by
  induction h with
  | nil => rfl
  | cons hsegment _ ih =>
      rw [List.mapM_cons, hsegment.ofJson?_eq, ih]
      rfl

end Segment

/-! ## Patterns -/

namespace Pattern

/-- The pattern that JSON stands for. The numbers of values in it are left aside, because the
segments have them. -/
def ofJson? (json : Json) : Option Pattern := do
  let source ← (← json.member? "pattern".toList).text?
  let method ← (← json.member? "method".toList).optionalText?
  let host ← (← json.member? "host".toList).optionalText?
  let items ← (← json.member? "segments".toList).items?
  let segments ← items.mapM Segment.ofJson?
  some { source, method, host, segments }

theorem ofJson?_toJson (pattern : Pattern) : ofJson? pattern.toJson = some pattern := by
  have hsource : pattern.toJson.member? "pattern".toList = some (.string pattern.source) := rfl
  have hmethod : pattern.toJson.member? "method".toList = some (Json.ofText? pattern.method) := rfl
  have hhost : pattern.toJson.member? "host".toList = some (Json.ofText? pattern.host) := rfl
  have hsegments : pattern.toJson.member? "segments".toList =
      some (.array (pattern.segments.map Segment.toJson)) := rfl
  rw [ofJson?, hsource, hmethod, hhost, hsegments]
  simp only [bind, Option.bind_some, Json.text?, Json.items?, Json.optionalText?_ofText?,
    Segment.mapM_ofJson?_of_viewed (Segment.viewed_map_toJson pattern.segments)]

theorem ofRun_parse_json {source : Text} {pattern : Pattern} (h : parse source = .ok pattern)
    (files : Files) :
    Outcome.ofRun (Command.run files (.parse source true)) =
      { exitCode := 0, stdout := pattern.toJson.print 0 ++ ['\n'], stderr := [] } := by
  rw [Command.run, Command.readPattern_eq h, Printing.check_ok_bind]
  exact Outcome.ofRun_line _

theorem read?_print_toJson (pattern : Pattern) :
    Json.read? (pattern.toJson.print 0 ++ ['\n']) = some pattern.toJson :=
  Json.read?_print pattern.toJson 0 rfl

/-- **The JSON of a pattern holds all of it.** What is printed for a pattern text is JSON, an object
with the text, the method, the host, the segments one by one, and the numbers of values. The pattern
can be taken from it, so that no two texts print the same. -/
theorem json_reads_back {source : Text} {pattern : Pattern} (h : parse source = .ok pattern)
    (files : Files) :
    ∃ document items,
      Outcome.ofRun (Command.run files (.parse source true)) =
        { exitCode := 0, stdout := document, stderr := [] } ∧
      Json.read? document = some (.object
        [("pattern".toList, .string source),
          ("method".toList, pattern.method.elim .null .string),
          ("host".toList, pattern.host.elim .null .string),
          ("segments".toList, .array items),
          ("required".toList, .number pattern.arity.required),
          ("trailing".toList, .bool pattern.arity.trailing)]) ∧
      List.Forall₂ Segment.Viewed pattern.segments items ∧
      (∀ segments, List.Forall₂ Segment.Viewed segments items → segments = pattern.segments) ∧
      (Json.read? document).bind ofJson? = some pattern ∧
      ∀ source' pattern', parse source' = .ok pattern' →
        (Outcome.ofRun (Command.run files (.parse source' true))).stdout = document →
        source' = source := by
  have hviewed := Segment.viewed_map_toJson pattern.segments
  have hback : (Json.read? (pattern.toJson.print 0 ++ ['\n'])).bind ofJson? = some pattern := by
    rw [read?_print_toJson, Option.bind_some, ofJson?_toJson]
  refine ⟨_, _, ofRun_parse_json h files, ?_, hviewed, ?_, hback, ?_⟩
  · rw [read?_print_toJson, toJson, source_of_parse h, Json.ofText?_eq_elim, Json.ofText?_eq_elim]
  · intro segments hsegments
    have heq := (Segment.mapM_ofJson?_of_viewed hsegments).symm.trans
      (Segment.mapM_ofJson?_of_viewed hviewed)
    exact Option.some.inj heq
  · intro source' pattern' h' hsame
    rw [ofRun_parse_json h'] at hsame
    have hprinted : pattern'.toJson.print 0 ++ ['\n'] = pattern.toJson.print 0 ++ ['\n'] := hsame
    rw [← hprinted, read?_print_toJson, Option.bind_some, ofJson?_toJson] at hback
    exact (eq_iff_of_parse h' h).1 (Option.some.inj hback)

/-- Quotes, a backslash and controls in the text, and an anchor, which has no value. -/
def withControls : Pattern where
  source := " h/\x22\\\n%01/{é}/{$}".toList
  method := none
  host := some ['h']
  segments := [.literal ['\x22', '\\', '\n', '\x01'], .single ['é'], .endAnchor]

theorem json_reads_back_withControls :
    parse withControls.source = .ok withControls ∧ ∃ document items,
      Outcome.ofRun (Command.run .empty (.parse withControls.source true)) =
        { exitCode := 0, stdout := document, stderr := [] } ∧
      Json.read? document = some (.object
        [("pattern".toList, .string withControls.source),
          ("method".toList, .null),
          ("host".toList, .string ['h']),
          ("segments".toList, .array items),
          ("required".toList, .number 1),
          ("trailing".toList, .bool false)]) ∧
      (Json.read? document).bind ofJson? = some withControls := by
  have hparse : parse withControls.source = .ok withControls := rfl
  obtain ⟨document, items, hrun, hread, -, -, hback, -⟩ :=
    json_reads_back hparse .empty
  exact ⟨hparse, document, items, hrun, hread, hback⟩

end Pattern

end RoutePattern
