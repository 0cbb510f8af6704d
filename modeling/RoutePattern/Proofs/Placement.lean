import RoutePattern.Pattern.Build
import RoutePattern.Proofs.Grammar

/-!
# Placing values

`Placed segments values texts` is the rule by which values fill segments: each wildcard takes the
next value, and an empty last segment takes one if it is left. Every value is used, so the rule
applies to exactly the numbers of values that the arity accepts (`accepts_iff_exists_placed`), and
building is the rule followed by the host and the slashes (`build_eq_ok_iff`). Proofs about building
go by induction on the rule.
-/

namespace RoutePattern.Pattern

/-! ## The rule -/

/-- The values fill the segments in order, with none left over, and make these texts. -/
inductive Placed : List Segment → List Text → List Text → Prop
  | nil : Placed [] [] []
  | emptySlot : Placed [.literal []] [] [[]]
  | filledSlot (value : Text) : Placed [.literal []] [value] [value]
  | literal {text : Text} {segments : List Segment} {values texts : List Text}
      (hslot : ¬ (text = [] ∧ segments = [])) (h : Placed segments values texts) :
      Placed (.literal text :: segments) values (text :: texts)
  | endAnchor {segments : List Segment} {values texts : List Text}
      (h : Placed segments values texts) : Placed (.endAnchor :: segments) values ([] :: texts)
  | wildcard {segment : Segment} (hwildcard : segment.isWildcard = true) (value : Text)
      {segments : List Segment} {values texts : List Text} (h : Placed segments values texts) :
      Placed (segment :: segments) (value :: values) (value :: texts)

theorem Placed.place_eq {segments : List Segment} {values texts : List Text}
    (h : Placed segments values texts) : place segments values = some texts := by
  induction h with
  | nil => rfl
  | emptySlot => rfl
  | filledSlot value => rfl
  | literal hslot _ ih => rw [place, if_neg hslot, ih]; rfl
  | endAnchor _ ih => rw [place, ih]; rfl
  | @wildcard segment hwildcard value segments values texts _ ih =>
      cases segment with
      | single name => rw [place, ih]; rfl
      | rest name => rw [place, ih]; rfl
      | literal text => cases hwildcard
      | endAnchor => cases hwildcard

theorem placed_slot_iff {values texts : List Text} :
    Placed [.literal []] values texts ↔
      (values = [] ∧ texts = [[]]) ∨ ∃ value, values = [value] ∧ texts = [value] := by
  constructor
  · intro h
    cases h with
    | emptySlot => exact Or.inl ⟨rfl, rfl⟩
    | filledSlot value => exact Or.inr ⟨value, rfl, rfl⟩
    | literal hslot _ => exact absurd ⟨rfl, rfl⟩ hslot
    | wildcard hwildcard _ _ => cases hwildcard
  · rintro (⟨rfl, rfl⟩ | ⟨value, rfl, rfl⟩)
    · exact .emptySlot
    · exact .filledSlot value

theorem placed_literal_iff {text : Text} {segments : List Segment} {values texts : List Text}
    (hslot : ¬ (text = [] ∧ segments = [])) :
    Placed (.literal text :: segments) values texts ↔
      ∃ later, texts = text :: later ∧ Placed segments values later := by
  constructor
  · intro h
    cases h with
    | emptySlot => exact absurd ⟨rfl, rfl⟩ hslot
    | filledSlot value => exact absurd ⟨rfl, rfl⟩ hslot
    | literal _ h => exact ⟨_, rfl, h⟩
    | wildcard hwildcard _ _ => cases hwildcard
  · rintro ⟨later, rfl, h⟩
    exact .literal hslot h

theorem placed_endAnchor_iff {segments : List Segment} {values texts : List Text} :
    Placed (.endAnchor :: segments) values texts ↔
      ∃ later, texts = [] :: later ∧ Placed segments values later := by
  constructor
  · intro h
    cases h with
    | endAnchor h => exact ⟨_, rfl, h⟩
    | wildcard hwildcard _ _ => cases hwildcard
  · rintro ⟨later, rfl, h⟩
    exact .endAnchor h

theorem placed_wildcard_iff {segment : Segment} {segments : List Segment}
    {values texts : List Text} (hwildcard : segment.isWildcard = true) :
    Placed (segment :: segments) values texts ↔
      ∃ value values' later, values = value :: values' ∧ texts = value :: later ∧
        Placed segments values' later := by
  constructor
  · intro h
    cases h with
    | emptySlot => cases hwildcard
    | filledSlot value => cases hwildcard
    | literal _ h => cases hwildcard
    | endAnchor h => cases hwildcard
    | wildcard _ value h => exact ⟨value, _, _, rfl, rfl, h⟩
  · rintro ⟨value, values', later, rfl, rfl, h⟩
    exact .wildcard hwildcard value h

/-! ## How many values are placed -/

/-- One value more can be placed after a trailing slash. -/
def slotRoom (segments : List Segment) : Nat :=
  if segments.getLast? == some (.literal []) then 1 else 0

theorem slotRoom_cons {segment : Segment} {segments : List Segment}
    (h : ¬ (segment = .literal [] ∧ segments = [])) :
    slotRoom (segment :: segments) = slotRoom segments := by
  cases segments with
  | nil =>
      have hne : segment ≠ .literal [] := fun heq => h ⟨heq, rfl⟩
      simp [slotRoom, hne]
  | cons next later => rw [slotRoom, slotRoom, List.getLast?_cons_cons]

theorem arity_max (pattern : Pattern) :
    pattern.arity.max = pattern.arity.required + slotRoom pattern.segments := rfl

theorem Placed.bounds {segments : List Segment} {values texts : List Text}
    (h : Placed segments values texts) :
    segments.countP Segment.isWildcard ≤ values.length ∧
      values.length ≤ segments.countP Segment.isWildcard + slotRoom segments := by
  induction h with
  | nil => decide
  | emptySlot => decide
  | filledSlot value => exact ⟨Nat.zero_le _, Nat.le_refl _⟩
  | literal hslot _ ih =>
      rw [slotRoom_cons (by simpa using hslot)]
      simpa [List.countP_cons, Segment.isWildcard] using ih
  | endAnchor _ ih =>
      rw [slotRoom_cons (by simp)]
      simpa [List.countP_cons, Segment.isWildcard] using ih
  | wildcard hwildcard value _ ih =>
      rw [slotRoom_cons (by rintro ⟨rfl, -⟩; cases hwildcard)]
      rw [List.countP_cons, if_pos hwildcard, List.length_cons]
      omega

theorem exists_placed {segments : List Segment} {values : List Text}
    (hlow : segments.countP Segment.isWildcard ≤ values.length)
    (hhigh : values.length ≤ segments.countP Segment.isWildcard + slotRoom segments) :
    ∃ texts, Placed segments values texts := by
  induction segments generalizing values with
  | nil =>
      have hnil : values = [] := List.length_eq_zero_iff.1 (Nat.le_zero.1 hhigh)
      exact ⟨[], hnil ▸ .nil⟩
  | cons segment segments ih =>
      by_cases hslot : segment = .literal [] ∧ segments = []
      · obtain ⟨rfl, rfl⟩ := hslot
        cases values with
        | nil => exact ⟨_, .emptySlot⟩
        | cons value values =>
            have hnil : values = [] :=
              List.length_eq_zero_iff.1 (Nat.le_zero.1 (Nat.le_of_succ_le_succ hhigh))
            exact ⟨[value], hnil ▸ Placed.filledSlot value⟩
      · rw [slotRoom_cons hslot] at hhigh
        rw [List.countP_cons] at hlow hhigh
        cases hwildcard : segment.isWildcard with
        | true =>
            simp only [hwildcard, if_true] at hlow hhigh
            cases values with
            | nil => cases hlow
            | cons value values =>
                simp only [List.length_cons] at hlow hhigh
                have hplaced : ∃ texts, Placed segments values texts := ih (by omega) (by omega)
                obtain ⟨texts, htexts⟩ := hplaced
                exact ⟨_, .wildcard hwildcard value htexts⟩
        | false =>
            simp only [hwildcard] at hlow hhigh
            obtain ⟨texts, htexts⟩ := ih hlow hhigh
            cases segment with
            | literal text => exact ⟨_, .literal (by simpa using hslot) htexts⟩
            | endAnchor => exact ⟨_, .endAnchor htexts⟩
            | single name => cases hwildcard
            | rest name => cases hwildcard

theorem accepts_iff_exists_placed {pattern : Pattern} {values : List Text} :
    pattern.arity.accepts values.length = true ↔
      ∃ texts, Placed pattern.segments values texts := by
  rw [Arity.accepts_iff]
  exact ⟨fun h => exists_placed h.1 h.2, fun ⟨_, h⟩ => h.bounds⟩

/-! ## Building by the rule -/

variable {pattern : Pattern} {values : List Text}

theorem Placed.build_eq {texts : List Text} (h : Placed pattern.segments values texts) :
    pattern.build values = .ok (pattern.assemble texts) := by
  have hbounds := h.bounds
  have hlow : ¬ values.length < pattern.arity.required := Nat.not_lt.2 hbounds.1
  have hhigh : ¬ pattern.arity.max < values.length := Nat.not_lt.2 hbounds.2
  rw [build]
  simp only [if_neg hlow, if_neg hhigh, h.place_eq]

theorem build_of_lt_required (h : values.length < pattern.arity.required) :
    pattern.build values = .error (.notEnough pattern.source pattern.arity.required) := by
  rw [build]
  exact if_pos h

theorem build_of_max_lt (h : pattern.arity.max < values.length) :
    pattern.build values =
      .error (.tooMany pattern.source values.length pattern.arity.max) := by
  have hlow : ¬ values.length < pattern.arity.required := by
    rw [arity_max] at h
    omega
  rw [build]
  simp only [if_neg hlow, if_pos h]

/-- The number of values decides how a build ends. -/
theorem build_cases (pattern : Pattern) (values : List Text) :
    (values.length < pattern.arity.required ∧
      pattern.build values = .error (.notEnough pattern.source pattern.arity.required)) ∨
    (pattern.arity.max < values.length ∧
      pattern.build values =
        .error (.tooMany pattern.source values.length pattern.arity.max)) ∨
    ∃ texts, Placed pattern.segments values texts ∧
      pattern.build values = .ok (pattern.assemble texts) := by
  by_cases hlow : values.length < pattern.arity.required
  · exact Or.inl ⟨hlow, build_of_lt_required hlow⟩
  · by_cases hhigh : pattern.arity.max < values.length
    · exact Or.inr (Or.inl ⟨hhigh, build_of_max_lt hhigh⟩)
    · obtain ⟨texts, htexts⟩ := exists_placed (Nat.not_lt.1 hlow) (Nat.not_lt.1 hhigh)
      exact Or.inr (Or.inr ⟨texts, htexts, htexts.build_eq⟩)

theorem build_eq_ok_iff {url : Text} :
    pattern.build values = .ok url ↔
      ∃ texts, Placed pattern.segments values texts ∧ pattern.assemble texts = url := by
  constructor
  · intro h
    rcases build_cases pattern values with ⟨-, hlow⟩ | ⟨-, hhigh⟩ | ⟨texts, htexts, hok⟩
    · cases hlow.symm.trans h
    · cases hhigh.symm.trans h
    · exact ⟨texts, htexts, Except.ok.inj (hok.symm.trans h)⟩
  · rintro ⟨texts, htexts, rfl⟩
    exact htexts.build_eq

end RoutePattern.Pattern
