import RoutePattern.Proofs.Placement

/-!
# Values are read off the path

A path that was built determines the values that it was built from. The texts of two runs are cut
apart from the left: a literal is the same text in both, slashes in it or not; a value of a
wildcard `{name}` ends where the next slash stands; and what may hold slashes is last. Only the
value after a trailing slash can be left out, and only when it is empty (`build_injective`).
-/

namespace RoutePattern.Pattern

/-- No value that takes the place of a wildcard `{name}` holds a slash. The wildcards take values
in order, so that the positions count wildcards of both kinds. -/
def SinglesSlashFree (segments : List Segment) (values : List Text) : Prop :=
  ∀ (position : Nat) (name value : Text),
    (segments.filter Segment.isWildcard)[position]? = some (Segment.single name) →
    values[position]? = some value → '/' ∉ value

theorem SinglesSlashFree.tail {segment : Segment} {segments : List Segment} {value : Text}
    {values : List Text} (hwildcard : segment.isWildcard = true)
    (h : SinglesSlashFree (segment :: segments) (value :: values)) :
    SinglesSlashFree segments values := by
  intro position name v hsegment hvalue
  refine h (position + 1) name v ?_ hvalue
  rw [List.filter_cons, if_pos hwildcard]
  exact hsegment

theorem SinglesSlashFree.head {name value : Text} {segments : List Segment} {values : List Text}
    (h : SinglesSlashFree (.single name :: segments) (value :: values)) : '/' ∉ value :=
  h 0 name value rfl rfl

/-- A text without slashes ends where the next piece begins. -/
theorem append_flatMap_slash_inj {s t : Text} {rest rest' : List Text} (hs : '/' ∉ s)
    (ht : '/' ∉ t) (h : s ++ rest.flatMap ('/' :: ·) = t ++ rest'.flatMap ('/' :: ·)) :
    s = t ∧ rest.flatMap ('/' :: ·) = rest'.flatMap ('/' :: ·) := by
  -- On both sides the text is what stands before the first slash.
  have hfirst : ∀ {t : Text} (pieces : List Text), '/' ∉ t →
      (Text.split '/' (t ++ pieces.flatMap ('/' :: ·))).1 = t := by
    intro t pieces ht
    rw [Text.split_append ht]
    cases pieces with
    | nil => simp [Text.split]
    | cons piece pieces => simp [Text.split_sep_cons]
  have hst : s = t := by rw [← hfirst rest hs, h, hfirst rest' ht]
  subst hst
  exact ⟨rfl, List.append_cancel_left h⟩

/-- Two placements in the same segments that make the same path are of the same values, up to an
empty value after a trailing slash. -/
theorem Placed.values_eq {segments : List Segment} {vs ws ts us : List Text}
    (hv : Placed segments vs ts) (hw : Placed segments ws us)
    (hterminals : misplaced? segments = none)
    (hvs : SinglesSlashFree segments vs) (hws : SinglesSlashFree segments ws)
    (h : ts.flatMap ('/' :: ·) = us.flatMap ('/' :: ·)) :
    vs = ws ∨ ws = vs ++ [[]] ∨ vs = ws ++ [[]] := by
  -- Induction on the first placement; at each segment the second one is inverted beside it.
  induction hv generalizing ws us with
  | nil =>
      cases hw
      exact Or.inl rfl
  | emptySlot =>
      rcases placed_slot_iff.1 hw with ⟨rfl, rfl⟩ | ⟨w, rfl, rfl⟩
      · exact Or.inl rfl
      · have hempty : w = [] := by simpa using h.symm
        exact Or.inr (Or.inl (by rw [hempty]; rfl))
  | filledSlot v =>
      rcases placed_slot_iff.1 hw with ⟨rfl, rfl⟩ | ⟨w, rfl, rfl⟩
      · have hempty : v = [] := by simpa using h
        exact Or.inr (Or.inr (by rw [hempty]; rfl))
      · have hvalue : v = w := by simpa using h
        exact Or.inl (by rw [hvalue])
  | literal hslot _ ih =>
      obtain ⟨us', rfl, hw'⟩ := (placed_literal_iff hslot).1 hw
      have hlater := (misplaced?_cons_eq_none_iff.1 hterminals).2
      exact ih hw' hlater hvs hws (by simpa using h)
  | endAnchor _ ih =>
      obtain ⟨us', rfl, hw'⟩ := placed_endAnchor_iff.1 hw
      have hlater := (misplaced?_cons_eq_none_iff.1 hterminals).2
      exact ih hw' hlater hvs hws (by simpa using h)
  | @wildcard segment hwildcard v segments vs ts hv ih =>
      obtain ⟨w, ws', us', rfl, rfl, hw'⟩ := (placed_wildcard_iff hwildcard).1 hw
      obtain ⟨hlast, hlater⟩ := misplaced?_cons_eq_none_iff.1 hterminals
      have htexts : v ++ ts.flatMap ('/' :: ·) = w ++ us'.flatMap ('/' :: ·) := by
        simpa using h
      cases segment with
      | literal text => cases hwildcard
      | endAnchor => cases hwildcard
      | single name =>
          obtain ⟨rfl, hrest⟩ := append_flatMap_slash_inj hvs.head hws.head htexts
          rcases ih hw' hlater (hvs.tail rfl) (hws.tail rfl) hrest with rfl | rfl | rfl
          · exact Or.inl rfl
          · exact Or.inr (Or.inl rfl)
          · exact Or.inr (Or.inr rfl)
      | rest name =>
          -- Its value may hold slashes, but it is the last text of both paths.
          have hnil : segments = [] := hlast rfl
          subst hnil
          cases hv
          cases hw'
          have hvalue : v = w := by simpa using htexts
          exact Or.inl (by rw [hvalue])

/-- **Reversal is injective.** Values that an arity accepts, and that hold no slash where a
wildcard `{name}` takes them, are determined by the path that they make: equally many values are
the same values, and of two lists of different lengths the longer one has an empty value more. -/
theorem build_injective {source : Text} {pattern : Pattern} {vs ws : List Text}
    (hparse : parse source = .ok pattern)
    (hvs : pattern.arity.accepts vs.length = true)
    (hws : pattern.arity.accepts ws.length = true)
    (hvs_slash : SinglesSlashFree pattern.segments vs)
    (hws_slash : SinglesSlashFree pattern.segments ws)
    (hbuild : pattern.build vs = pattern.build ws) :
    (vs.length = ws.length → vs = ws) ∧
    (vs.length < ws.length → ws = vs ++ [[]]) ∧
    (ws.length < vs.length → vs = ws ++ [[]]) := by
  obtain ⟨method, host, pieces, -, hterminals, rfl⟩ := exists_cut_of_parse hparse
  obtain ⟨ts, hts⟩ := accepts_iff_exists_placed.1 hvs
  obtain ⟨us, hus⟩ := accepts_iff_exists_placed.1 hws
  rw [hts.build_eq, hus.build_eq] at hbuild
  have htexts : ts.flatMap ('/' :: ·) = us.flatMap ('/' :: ·) :=
    List.append_cancel_left (Except.ok.inj hbuild)
  rcases hts.values_eq hus hterminals hvs_slash hws_slash htexts with rfl | rfl | rfl
  · exact ⟨fun _ => rfl, fun h => absurd h (Nat.lt_irrefl _),
      fun h => absurd h (Nat.lt_irrefl _)⟩
  · rw [List.length_append, List.length_singleton]
    exact ⟨fun h => by omega, fun _ => rfl, fun h => by omega⟩
  · rw [List.length_append, List.length_singleton]
    exact ⟨fun h => by omega, fun h => by omega, fun _ => rfl⟩

/-- A slash in a literal, a wildcard, and a trailing slash. -/
def slashed : Pattern where
  source := "/a%2Fb/{x}/".toList
  method := none
  host := none
  segments := [.literal ['a', '/', 'b'], .single ['x'], .literal []]

theorem singlesSlashFree_slashed (later : List Text) :
    SinglesSlashFree slashed.segments (['q'] :: later) := by
  intro position name value hsegment hvalue
  cases position with
  | zero =>
      cases hvalue
      decide
  | succ position => cases hsegment

theorem build_injective_slashed :
    parse slashed.source = .ok slashed ∧
      slashed.build [['q']] = slashed.build [['q'], []] ∧
      (([['q']] : List Text).length < ([['q'], []] : List Text).length →
        ([['q'], []] : List Text) = [['q']] ++ [[]]) := by
  have hparse : parse slashed.source = .ok slashed := rfl
  have hbuild : slashed.build [['q']] = slashed.build [['q'], []] := rfl
  exact ⟨hparse, hbuild, (build_injective hparse (by decide) (by decide)
    (singlesSlashFree_slashed []) (singlesSlashFree_slashed [[]]) hbuild).2.1⟩

end RoutePattern.Pattern
