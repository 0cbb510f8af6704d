import RoutePattern.Proofs.Placement

/-!
# How the number of values decides a build

Whether values fill a pattern is checked before any of them is placed, by counting, and the placing
itself keeps no count. Here it is run with the values that are left (`fill`), one segment at a time:
a segment takes a value off the front or none (`Segment.take?`), so that the run stops short of a
wildcard exactly if there are fewer values than wildcards, and what it leaves is what stands behind
the values that have room (`fill_eq_none_iff`, `left_of_fill`). Counting and placing therefore
agree on every number of values (`arity_decides_build`).
-/

namespace RoutePattern

/-! ## One segment -/

/-- The text of a segment and the values that it leaves. An empty literal takes a value if it is
the last segment and one is left; a wildcard cannot do without one. -/
def Segment.take? (last : Bool) : Segment → List Text → Option (Text × List Text)
  | .literal text, values =>
    if text = [] ∧ last then some (values.headD [], values.tail) else some (text, values)
  | .endAnchor, values => some ([], values)
  | .single _, value :: values => some (value, values)
  | .rest _, value :: values => some (value, values)
  | .single _, [] => none
  | .rest _, [] => none

/-- How many values a segment has room for. -/
def Segment.room (last : Bool) (segment : Segment) : Nat :=
  if segment.isWildcard ∨ (segment = .literal [] ∧ last) then 1 else 0

namespace Segment

variable {segment : Segment} {last : Bool} {values left : List Text} {text : Text}

theorem take?_eq_none_iff :
    segment.take? last values = none ↔ segment.isWildcard = true ∧ values = [] := by
  cases segment with
  | literal text =>
      rw [take?]
      split <;> simp [isWildcard]
  | endAnchor => simp [take?, isWildcard]
  | single name => cases values <;> simp [take?, isWildcard]
  | rest name => cases values <;> simp [take?, isWildcard]

theorem left_of_take? (h : segment.take? last values = some (text, left)) :
    left = values.drop (segment.room last) := by
  cases segment with
  | literal own =>
      rw [take?] at h
      by_cases hslot : own = [] ∧ last = true
      · rw [if_pos hslot] at h
        obtain ⟨rfl, rfl⟩ := hslot
        cases h
        exact List.drop_one.symm
      · rw [if_neg hslot] at h
        have hroom : room last (.literal own) = 0 := by simp [room, isWildcard, hslot]
        cases h
        rw [hroom, List.drop_zero]
  | endAnchor =>
      cases h
      rfl
  | single name =>
      cases values with
      | nil => cases h
      | cons value values =>
          cases h
          rfl
  | rest name =>
      cases values with
      | nil => cases h
      | cons value values =>
          cases h
          rfl

end Segment

namespace Pattern

/-! ## All segments -/

/-- The texts of the segments and the values that are left behind the last one, or nothing if the
values run out at a wildcard. -/
def fill : List Segment → List Text → Option (List Text × List Text)
  | [], values => some ([], values)
  | segment :: segments, values =>
    (segment.take? segments.isEmpty values).bind fun taken =>
      (fill segments taken.2).map fun filled => (taken.1 :: filled.1, filled.2)

theorem place_eq_map_fill (segments : List Segment) (values : List Text) :
    place segments values = (fill segments values).map Prod.fst := by
  induction segments generalizing values with
  | nil => rfl
  | cons segment segments ih =>
      -- Both go on with the values that the first segment leaves.
      have hlater : ∀ (text : Text) (left : List Text),
          ((fill segments left).map fun filled => (text :: filled.1, filled.2)).map Prod.fst =
            (place segments left).map (text :: ·) := by
        intro text left
        rw [ih left, Option.map_map, Option.map_map]
        rfl
      cases segment with
      | literal text =>
          by_cases hslot : text = [] ∧ segments = []
          · obtain ⟨rfl, rfl⟩ := hslot
            rfl
          · have htake : (Segment.literal text).take? segments.isEmpty values =
                some (text, values) := if_neg (by simpa using hslot)
            rw [place, if_neg hslot, fill, htake, Option.bind_some, hlater]
      | endAnchor => rw [place, fill, Segment.take?, Option.bind_some, hlater]
      | single name =>
          cases values with
          | nil => rfl
          | cons value values => rw [place, fill, Segment.take?, Option.bind_some, hlater]
      | rest name =>
          cases values with
          | nil => rfl
          | cons value values => rw [place, fill, Segment.take?, Option.bind_some, hlater]

variable {segments : List Segment} {values texts left : List Text}

theorem room_add (segment : Segment) (segments : List Segment) :
    (segment :: segments).countP Segment.isWildcard + slotRoom (segment :: segments) =
      segment.room segments.isEmpty +
        (segments.countP Segment.isWildcard + slotRoom segments) := by
  by_cases hslot : segment = .literal [] ∧ segments = []
  · obtain ⟨rfl, rfl⟩ := hslot
    rfl
  · rw [slotRoom_cons hslot, List.countP_cons]
    have hroom : segment.room segments.isEmpty = if segment.isWildcard then 1 else 0 := by
      simp [Segment.room, hslot]
    rw [hroom]
    omega

theorem left_of_fill (h : fill segments values = some (texts, left)) :
    left = values.drop (segments.countP Segment.isWildcard + slotRoom segments) := by
  induction segments generalizing values texts with
  | nil =>
      cases h
      rfl
  | cons segment segments ih =>
      obtain ⟨⟨text, rest⟩, htake, hfill⟩ := Option.bind_eq_some_iff.1 h
      obtain ⟨⟨texts', left'⟩, hlater, heq⟩ := Option.map_eq_some_iff.1 hfill
      cases heq
      rw [room_add, ← List.drop_drop, ← Segment.left_of_take? htake]
      exact ih hlater

theorem fill_eq_none_iff :
    fill segments values = none ↔ values.length < segments.countP Segment.isWildcard := by
  induction segments generalizing values with
  | nil => simp [fill]
  | cons segment segments ih =>
      rw [fill, List.countP_cons]
      cases htake : segment.take? segments.isEmpty values with
      | none =>
          obtain ⟨hwildcard, rfl⟩ := Segment.take?_eq_none_iff.1 htake
          simp [hwildcard]
      | some taken =>
          obtain ⟨text, rest⟩ := taken
          have hrest := Segment.left_of_take? htake
          rw [Option.bind_some, Option.map_eq_none_iff, ih, hrest, List.length_drop]
          cases hwildcard : segment.isWildcard with
          | true =>
              -- The wildcard had a value to take.
              have hne : values ≠ [] := by
                rintro rfl
                rw [Segment.take?_eq_none_iff.2 ⟨hwildcard, rfl⟩] at htake
                cases htake
              have hlength := List.length_pos_iff.2 hne
              simp only [Segment.room, hwildcard, true_or, if_true]
              omega
          | false =>
              -- A slot may take a value, but no wildcard stands behind it to miss it.
              by_cases hslot : segment = .literal [] ∧ segments = []
              · obtain ⟨rfl, rfl⟩ := hslot
                simp
              · simp [Segment.room, hwildcard, hslot]

/-! ## The build -/

variable {pattern : Pattern}

theorem exists_build_eq_ok_iff :
    (∃ url, pattern.build values = .ok url) ↔
      pattern.arity.required ≤ values.length ∧ values.length ≤ pattern.arity.max := by
  rw [← Arity.accepts_iff, accepts_iff_exists_placed]
  constructor
  · rintro ⟨url, hbuild⟩
    obtain ⟨texts, htexts, -⟩ := build_eq_ok_iff.1 hbuild
    exact ⟨texts, htexts⟩
  · rintro ⟨texts, htexts⟩
    exact ⟨_, htexts.build_eq⟩

theorem build_eq_notEnough_iff :
    pattern.build values = .error (.notEnough pattern.source pattern.arity.required) ↔
      values.length < pattern.arity.required := by
  constructor
  · intro h
    rcases build_cases pattern values with ⟨hlow, -⟩ | ⟨-, hmany⟩ | ⟨texts, -, hok⟩
    · exact hlow
    · cases hmany.symm.trans h
    · cases hok.symm.trans h
  · exact build_of_lt_required

theorem build_eq_tooMany_iff :
    pattern.build values = .error (.tooMany pattern.source values.length pattern.arity.max) ↔
      pattern.arity.max < values.length := by
  constructor
  · intro h
    rcases build_cases pattern values with ⟨-, hfew⟩ | ⟨hhigh, -⟩ | ⟨texts, -, hok⟩
    · cases hfew.symm.trans h
    · exact hhigh
    · cases hok.symm.trans h
  · exact build_of_max_lt

theorem error_of_build {error : BuildError} (h : pattern.build values = .error error) :
    error = .notEnough pattern.source pattern.arity.required ∨
      error = .tooMany pattern.source values.length pattern.arity.max := by
  rcases build_cases pattern values with ⟨-, hfew⟩ | ⟨-, hmany⟩ | ⟨texts, -, hok⟩
  · exact Or.inl (Except.error.inj (h.symm.trans hfew))
  · exact Or.inr (Except.error.inj (h.symm.trans hmany))
  · cases hok.symm.trans h

/-- Fewer values than `least` are not enough, more than `most` are too many, and all others are
placed, with none left over. -/
structure DecidedBy (least most : Nat) (pattern : Pattern) (values : List Text) : Prop where
  required_eq : pattern.arity.required = least
  wildcards_eq : pattern.wildcards.length = least
  max_eq : pattern.arity.max = most
  ok_iff : (∃ url, pattern.build values = .ok url) ↔
    least ≤ values.length ∧ values.length ≤ most
  notEnough_iff : pattern.build values = .error (.notEnough pattern.source least) ↔
    values.length < least
  tooMany_iff :
    pattern.build values = .error (.tooMany pattern.source values.length most) ↔
      most < values.length
  error_cases : ∀ error, pattern.build values = .error error →
    error = .notEnough pattern.source least ∨
      error = .tooMany pattern.source values.length most
  -- What is checked by counting is what the run of the placing comes to.
  place_eq : place pattern.segments values = (fill pattern.segments values).map Prod.fst
  runs_out_iff : fill pattern.segments values = none ↔ values.length < least
  left_eq : ∀ texts left, fill pattern.segments values = some (texts, left) →
    left = values.drop most
  all_placed : least ≤ values.length → values.length ≤ most →
    ∃ texts, fill pattern.segments values = some (texts, [])

theorem decidedBy_arity (pattern : Pattern) (values : List Text) :
    DecidedBy pattern.arity.required pattern.arity.max pattern values := by
  have hleft : ∀ texts left, fill pattern.segments values = some (texts, left) →
      left = values.drop pattern.arity.max := fun _ _ => left_of_fill
  refine ⟨rfl, pattern.length_wildcards, rfl, exists_build_eq_ok_iff, build_eq_notEnough_iff,
    build_eq_tooMany_iff, fun _ => error_of_build, place_eq_map_fill _ _, fill_eq_none_iff, hleft,
    ?_⟩
  intro hlow hhigh
  cases hfill : fill pattern.segments values with
  | none => exact absurd (fill_eq_none_iff.1 hfill) (Nat.not_lt.2 hlow)
  | some filled =>
      obtain ⟨texts, left⟩ := filled
      refine ⟨texts, ?_⟩
      rw [hleft texts left hfill, List.drop_of_length_le hhigh]

/-- **The arity decides.** With `k` wildcards a pattern takes `k` values, and one more if its last
segment is the empty literal; too few and too many are told apart by these numbers, and there is no
other error. The placing behind the check agrees: it never runs out of the values that were counted,
and leaves none of them. -/
theorem arity_decides_build {source : Text} {pattern : Pattern}
    (hparse : parse source = .ok pattern) (values : List Text) :
    pattern.source = source ∧
    DecidedBy (pattern.segments.countP Segment.isWildcard)
      (if pattern.segments.getLast? = some (.literal []) then
        pattern.segments.countP Segment.isWildcard + 1
      else pattern.segments.countP Segment.isWildcard)
      pattern values := by
  have hmax : pattern.arity.max =
      if pattern.segments.getLast? = some (.literal []) then
        pattern.segments.countP Segment.isWildcard + 1
      else pattern.segments.countP Segment.isWildcard := by
    rw [arity_max, slotRoom]
    by_cases hlast : pattern.segments.getLast? = some (.literal [])
    · rw [if_pos hlast, if_pos (beq_iff_eq.2 hlast)]
      rfl
    · rw [if_neg hlast, if_neg (fun h => hlast (beq_iff_eq.1 h))]
      rfl
  obtain ⟨method, host, pieces, -, -, rfl⟩ := exists_cut_of_parse hparse
  refine ⟨rfl, ?_⟩
  rw [← hmax]
  exact decidedBy_arity _ values

/-- An empty inner literal, a literal that is a slash, and a trailing slash. -/
def innerSlash : Pattern where
  source := "GET h//{a}/%2F/{b}/".toList
  method := some "GET".toList
  host := some ['h']
  segments := [.literal [], .single ['a'], .literal ['/'], .single ['b'], .literal []]

theorem arity_decides_build_innerSlash :
    parse innerSlash.source = .ok innerSlash ∧
    DecidedBy 2 3 innerSlash [['1'], ['2'], [], ['4']] ∧
    innerSlash.build [['1'], ['2'], [], ['4']] =
      .error (.tooMany "GET h//{a}/%2F/{b}/".toList 4 3) := by
  have hparse : parse innerSlash.source = .ok innerSlash := rfl
  have hdecided : DecidedBy 2 3 innerSlash [['1'], ['2'], [], ['4']] :=
    (arity_decides_build hparse [['1'], ['2'], [], ['4']]).2
  exact ⟨hparse, hdecided, hdecided.tooMany_iff.2 (by decide)⟩

end Pattern

end RoutePattern
