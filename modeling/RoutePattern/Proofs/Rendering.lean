import RoutePattern.Proofs.Placement

/-!
# What a path is made of, position by position

Which value a segment takes can be said without placing the ones before it: a wildcard takes the
value whose index is the number of wildcards before the segment, and an empty last segment takes
the value after all of these, if there is one (`valueIndex?`). The rule of placing agrees with the
indices, because the values that are left after a segment are counted from the ones that it took
(`valueIndex?_cons`). Listed along the path, the indices are `0, 1, 2, …` up to the number of
values, so that each value is placed once and in order (`build_eq_renderings`).
-/

namespace RoutePattern

def Segment.fixedText : Segment → Text
  | .literal text => text
  | .single _ => []
  | .rest _ => []
  | .endAnchor => []

namespace Pattern

/-- The index of the value that a segment takes at a position, when `count` values are placed. -/
def valueIndex? (segments : List Segment) (count position : Nat) : Segment → Option Nat
  | .literal text =>
    if text = [] ∧ position + 1 = segments.length ∧
        count = segments.countP Segment.isWildcard + 1 then
      some (segments.countP Segment.isWildcard)
    else none
  | .single _ => some ((segments.take position).countP Segment.isWildcard)
  | .rest _ => some ((segments.take position).countP Segment.isWildcard)
  | .endAnchor => none

/-- The text that stands for a segment at a position: the value that it takes, as it is, or else
its own text. -/
def rendering? (segments : List Segment) (values : List Text) (position : Nat)
    (segment : Segment) : Option Text :=
  match valueIndex? segments values.length position segment with
  | some index => values[index]?
  | none => some segment.fixedText

section Shift

variable {head : Segment} {segments : List Segment} {front values : List Text}

/-! ## The first segment and the later ones -/

theorem countP_isWildcard_cons (head : Segment) (segments : List Segment) :
    (head :: segments).countP Segment.isWildcard =
      head.valueCount + segments.countP Segment.isWildcard := by
  rw [List.countP_cons, Nat.add_comm]
  rfl

/-- Behind a segment the indices go on from the values that it took. -/
theorem valueIndex?_cons (head : Segment) (segments : List Segment) (count position : Nat)
    (segment : Segment) :
    valueIndex? (head :: segments) (head.valueCount + count) (position + 1) segment =
      (valueIndex? segments count position segment).map (head.valueCount + ·) := by
  have htake : ((head :: segments).take (position + 1)).countP Segment.isWildcard =
      head.valueCount + (segments.take position).countP Segment.isWildcard :=
    countP_isWildcard_cons head (segments.take position)
  cases segment with
  | single name => simp only [valueIndex?, htake, Option.map_some]
  | rest name => simp only [valueIndex?, htake, Option.map_some]
  | endAnchor => rfl
  | literal text =>
      -- The slot is the last one, and filled, here and in the segments after the first alike.
      have hslot : (text = [] ∧ position + 1 + 1 = (head :: segments).length ∧
            head.valueCount + count = (head :: segments).countP Segment.isWildcard + 1) ↔
          (text = [] ∧ position + 1 = segments.length ∧
            count = segments.countP Segment.isWildcard + 1) := by
        rw [countP_isWildcard_cons, List.length_cons]
        refine and_congr_right fun _ => and_congr ?_ ?_
        · exact Nat.add_right_cancel_iff
        · omega
      simp only [valueIndex?, hslot]
      rw [countP_isWildcard_cons]
      split
      · rfl
      · rfl

theorem valueIndex?_zero_of_wildcard (hwildcard : head.isWildcard = true) (count : Nat) :
    valueIndex? (head :: segments) count 0 head = some 0 := by
  cases head with
  | single name => rfl
  | rest name => rfl
  | literal text => cases hwildcard
  | endAnchor => cases hwildcard

theorem valueIndex?_zero_of_literal {text : Text} (hslot : ¬ (text = [] ∧ segments = []))
    (count : Nat) : valueIndex? (.literal text :: segments) count 0 (.literal text) = none := by
  refine if_neg ?_
  rintro ⟨htext, hlength, -⟩
  have hnil : segments = [] := by
    rw [List.length_cons] at hlength
    exact List.length_eq_zero_iff.1 (by omega)
  exact hslot ⟨htext, hnil⟩

theorem rendering?_cons (hfront : front.length = head.valueCount) (position : Nat)
    (segment : Segment) :
    rendering? (head :: segments) (front ++ values) (position + 1) segment =
      rendering? segments values position segment := by
  unfold rendering?
  rw [List.length_append, hfront, valueIndex?_cons]
  cases valueIndex? segments values.length position segment with
  | none => rfl
  | some index =>
      show (front ++ values)[head.valueCount + index]? = values[index]?
      rw [← hfront, List.getElem?_append_right (Nat.le_add_right _ _), Nat.add_sub_cancel_left]

/-! ## The path and the indices along it -/

/-- The indices of the values that the segments take, along the path. -/
def valueIndices (segments : List Segment) (count : Nat) : List Nat :=
  (segments.mapIdx (valueIndex? segments count)).filterMap id

theorem mapIdx_rendering?_cons (hfront : front.length = head.valueCount) :
    (head :: segments).mapIdx (rendering? (head :: segments) (front ++ values)) =
      rendering? (head :: segments) (front ++ values) 0 head ::
        segments.mapIdx (rendering? segments values) := by
  have hlater : (fun position => rendering? (head :: segments) (front ++ values) (position + 1)) =
      rendering? segments values := by
    funext position segment
    exact rendering?_cons hfront position segment
  rw [List.mapIdx_cons, hlater]

/-- If the first segment takes the first values, then the indices go on without a gap. -/
theorem valueIndices_cons {count : Nat}
    (hhead : (valueIndex? (head :: segments) (head.valueCount + count) 0 head).toList =
      List.range head.valueCount)
    (hlater : valueIndices segments count = List.range count) :
    valueIndices (head :: segments) (head.valueCount + count) =
      List.range (head.valueCount + count) := by
  have hshift : segments.mapIdx (fun position =>
        valueIndex? (head :: segments) (head.valueCount + count) (position + 1)) =
      (segments.mapIdx (valueIndex? segments count)).map (Option.map (head.valueCount + ·)) := by
    apply List.ext_getElem?
    intro position
    rw [List.getElem?_mapIdx, List.getElem?_map, List.getElem?_mapIdx]
    cases segments[position]? with
    | none => rfl
    | some segment => exact congrArg some (valueIndex?_cons head segments count position segment)
  have htail : ((segments.mapIdx (valueIndex? segments count)).map
        (Option.map (head.valueCount + ·))).filterMap id =
      (valueIndices segments count).map (head.valueCount + ·) := by
    rw [List.filterMap_map, valueIndices, List.map_filterMap]
    rfl
  calc valueIndices (head :: segments) (head.valueCount + count)
      = (valueIndex? (head :: segments) (head.valueCount + count) 0 head).toList ++
          (valueIndices segments count).map (head.valueCount + ·) := by
        rw [valueIndices, List.mapIdx_cons, hshift, ← htail]
        cases valueIndex? (head :: segments) (head.valueCount + count) 0 head with
        | none => rfl
        | some index => rfl
    _ = List.range (head.valueCount + count) := by
        rw [hhead, hlater, List.range_add]

end Shift

theorem Placed.mapIdx_rendering? {segments : List Segment} {values texts : List Text}
    (h : Placed segments values texts) :
    segments.mapIdx (rendering? segments values) = texts.map some := by
  induction h with
  | nil => rfl
  | emptySlot => rfl
  | filledSlot value => rfl
  | @literal text segments values texts hslot _ ih =>
      have hcons := @mapIdx_rendering?_cons (.literal text) segments [] values rfl
      have hhead : rendering? (.literal text :: segments) values 0 (.literal text) = some text := by
        rw [rendering?, valueIndex?_zero_of_literal hslot]
        rfl
      rw [List.nil_append] at hcons
      rw [hcons, hhead, ih, List.map_cons]
  | @endAnchor segments values texts _ ih =>
      have hcons := @mapIdx_rendering?_cons .endAnchor segments [] values rfl
      rw [List.nil_append] at hcons
      rw [hcons, ih, List.map_cons]
      rfl
  | @wildcard segment hwildcard value segments values texts _ ih =>
      have hfront : [value].length = segment.valueCount := by
        rw [Segment.valueCount, if_pos hwildcard]
        rfl
      have hcons := @mapIdx_rendering?_cons segment segments [value] values hfront
      have hhead : rendering? (segment :: segments) (value :: values) 0 segment = some value := by
        rw [rendering?, valueIndex?_zero_of_wildcard hwildcard]
        rfl
      rw [List.singleton_append] at hcons
      rw [hcons, hhead, ih, List.map_cons]

theorem Placed.valueIndices_eq {segments : List Segment} {values texts : List Text}
    (h : Placed segments values texts) :
    valueIndices segments values.length = List.range values.length := by
  induction h with
  | nil => rfl
  | emptySlot => rfl
  | filledSlot value => rfl
  | @literal text segments values texts hslot _ ih =>
      have hhead : valueIndex? (.literal text :: segments) (0 + values.length) 0 (.literal text) =
          none := valueIndex?_zero_of_literal hslot _
      rw [← Nat.zero_add values.length]
      exact valueIndices_cons (congrArg Option.toList hhead) ih
  | @endAnchor segments values texts _ ih =>
      rw [← Nat.zero_add values.length]
      exact @valueIndices_cons .endAnchor segments values.length rfl ih
  | @wildcard segment hwildcard value segments values texts _ ih =>
      have hcount : segment.valueCount = 1 := if_pos hwildcard
      have hhead : valueIndex? (segment :: segments) (segment.valueCount + values.length) 0 segment =
          some 0 := valueIndex?_zero_of_wildcard hwildcard _
      rw [List.length_cons, Nat.add_comm, ← hcount]
      refine valueIndices_cons ?_ ih
      rw [hhead, hcount]
      rfl

/-- **What reversal emits.** Any number of values that the arity admits makes the host, and for each
segment a slash and its rendering; each value is placed once, in order. Only the host and the
segments matter, and without segments the path is the host alone. -/
theorem build_eq_renderings {pattern : Pattern} {values : List Text}
    (hlow : pattern.arity.required ≤ values.length) (hhigh : values.length ≤ pattern.arity.max) :
    ∃ texts : List Text,
      pattern.segments.mapIdx (rendering? pattern.segments values) = texts.map some ∧
      valueIndices pattern.segments values.length = List.range values.length ∧
      pattern.build values = .ok (pattern.host.getD [] ++ texts.flatMap ('/' :: ·)) ∧
      (∀ other : Pattern, other.host = pattern.host → other.segments = pattern.segments →
        other.build values = pattern.build values) ∧
      (pattern.segments = [] → pattern.build values = .ok (pattern.host.getD [])) := by
  obtain ⟨texts, htexts⟩ := exists_placed hlow hhigh
  have hbuild : ∀ other : Pattern, other.host = pattern.host → other.segments = pattern.segments →
      other.build values = .ok (pattern.host.getD [] ++ texts.flatMap ('/' :: ·)) := by
    intro other hhost hsegments
    have hplaced : Placed other.segments values texts := hsegments ▸ htexts
    rw [hplaced.build_eq, assemble, hhost]
  refine ⟨texts, htexts.mapIdx_rendering?, htexts.valueIndices_eq, hbuild pattern rfl rfl, ?_, ?_⟩
  · intro other hhost hsegments
    rw [hbuild other hhost hsegments, hbuild pattern rfl rfl]
  · intro hnil
    have hnone : texts = [] := by
      rw [hnil] at htexts
      cases htexts
      rfl
    rw [hbuild pattern rfl rfl, hnone, List.flatMap_nil, List.append_nil]

/-- An empty inner literal, which takes no value, and a trailing slash, which does. -/
def emptyPieces : Pattern where
  source := "POST h/{a}//{b}/".toList
  method := some "POST".toList
  host := some ['h']
  segments := [.single ['a'], .literal [], .single ['b'], .literal []]

theorem build_eq_renderings_emptyPieces :
    parse emptyPieces.source = .ok emptyPieces ∧ emptyPieces.arity.required ≤ 3 ∧
      3 ≤ emptyPieces.arity.max ∧
      emptyPieces.build ["x/y".toList, "%41".toList, "z".toList] =
        .ok "h/x/y//%41/z".toList := by
  have hlow : emptyPieces.arity.required ≤ 3 := by decide
  have hhigh : 3 ≤ emptyPieces.arity.max := by decide
  obtain ⟨texts, hrenderings, -, hbuild, -, -⟩ :=
    @build_eq_renderings emptyPieces ["x/y".toList, "%41".toList, "z".toList] hlow hhigh
  have htexts : ["x/y".toList, [], "%41".toList, "z".toList] = texts :=
    (List.map_inj_right fun _ _ => Option.some.inj).1 hrenderings
  rw [← htexts] at hbuild
  exact ⟨rfl, hlow, hhigh, hbuild⟩

end Pattern

end RoutePattern
