import RoutePattern.Proofs.Classification

/-!
# The shapes that a segment's source text may have

A source text is an anchor or a wildcard exactly if it has one of three shapes, said here without
the cuts that reading makes (`Shape`). No text has two of them, because no wildcard name holds a
dollar sign or a dot (`Shape.unique`). Each shape can therefore be looked for by a rule of its own
(`ShapeRule`), and it does not matter in which order the rules are tried (`byRules_eq_ofSource`).
-/

namespace RoutePattern.Segment

/-- A text that has one of the three shapes, and the segment that it stands for. -/
inductive Shape : Text → Segment → Prop
  | endAnchor : Shape ['{', '$', '}'] .endAnchor
  | rest {name : Text} (hname : isWildcardName name = true) :
      Shape ('{' :: (name ++ ['.', '.', '.', '}'])) (.rest name)
  | single {name : Text} (hname : isWildcardName name = true) :
      Shape ('{' :: (name ++ ['}'])) (.single name)

/-! ## Shapes and reading -/

section Reading

variable {source name : Text} {segment segment' : Segment}

theorem Shape.ofSource_eq (h : Shape source segment) : ofSource source = segment := by
  cases h with
  | endAnchor => exact ofSource_anchorText
  | rest hname => exact ofSource_rest hname
  | single hname => exact ofSource_single hname

theorem Shape.display_eq (h : Shape source segment) : segment.display = source := by
  cases h with
  | endAnchor => rfl
  | rest hname => rfl
  | single hname => rfl

/-- No text has two of the shapes, and none of them in two ways. -/
theorem Shape.unique (h : Shape source segment) (h' : Shape source segment') :
    segment = segment' :=
  h.ofSource_eq.symm.trans h'.ofSource_eq

theorem not_shape_literal (text : Text) : ¬ Shape source (.literal text) := nofun

theorem shape_or_literal (source : Text) :
    Shape source (ofSource source) ∨ ofSource source = .literal (Text.percentDecode source) := by
  rcases ofSource_cases source with ⟨rfl, hs⟩ | ⟨name, hname, rfl, hs⟩ |
    ⟨name, hname, rfl, hs⟩ | hs
  · rw [hs]
    exact Or.inl .endAnchor
  · rw [hs]
    exact Or.inl (.rest hname)
  · rw [hs]
    exact Or.inl (.single hname)
  · exact Or.inr hs

/-- Apart from literals, what is read is what a shape stands for. -/
theorem ofSource_eq_iff_shape (hliteral : ∀ text, segment ≠ .literal text) :
    ofSource source = segment ↔ Shape source segment := by
  constructor
  · rintro rfl
    rcases shape_or_literal source with hshape | hs
    · exact hshape
    · exact absurd hs (hliteral _)
  · exact Shape.ofSource_eq

theorem ofSource_eq_literal_iff {text : Text} :
    ofSource source = .literal text ↔
      text = Text.percentDecode source ∧ ∀ segment, ¬ Shape source segment := by
  constructor
  · intro h
    refine ⟨eq_percentDecode_of_literal h, ?_⟩
    intro segment hshape
    rw [hshape.ofSource_eq] at h
    exact not_shape_literal text (h ▸ hshape)
  · rintro ⟨rfl, hnone⟩
    exact (shape_or_literal source).resolve_left (hnone _)

theorem shape_endAnchor_iff : Shape source .endAnchor ↔ source = ['{', '$', '}'] := by
  constructor
  · rintro ⟨⟩
    rfl
  · rintro rfl
    exact .endAnchor

theorem shape_rest_iff :
    Shape source (.rest name) ↔
      source = '{' :: (name ++ ['.', '.', '.', '}']) ∧ isWildcardName name = true := by
  constructor
  · rintro ⟨⟩
    exact ⟨rfl, ‹_›⟩
  · rintro ⟨rfl, hname⟩
    exact .rest hname

theorem shape_single_iff :
    Shape source (.single name) ↔
      source = '{' :: (name ++ ['}']) ∧ isWildcardName name = true := by
  constructor
  · rintro ⟨⟩
    exact ⟨rfl, ‹_›⟩
  · rintro ⟨rfl, hname⟩
    exact .single hname

theorem shape_display (hliteral : ∀ text, segment ≠ .literal text) (hnamed : segment.WellNamed) :
    Shape segment.display segment := by
  cases segment with
  | literal text => exact absurd rfl (hliteral text)
  | single name => exact .single (hnamed name rfl)
  | rest name => exact .rest (hnamed name rfl)
  | endAnchor => exact .endAnchor

end Reading

/-! ## Rules in any order -/

/-- A rule looks for one shape. -/
inductive ShapeRule where
  | endAnchor
  | rest
  | single
  deriving DecidableEq, Repr

def nameBefore? (closing source : Text) : Option Text :=
  ((Text.dropPrefix? ['{'] source).bind (Text.dropSuffix? closing)).filter isWildcardName

def ShapeRule.find? : ShapeRule → Text → Option Segment
  | .endAnchor, source => if source = anchorText then some .endAnchor else none
  | .rest, source => (nameBefore? (ellipsis ++ ['}']) source).map .rest
  | .single, source => (nameBefore? ['}'] source).map .single

/-- What the first of the rules that finds anything finds, or a literal. -/
def byRules (rules : List ShapeRule) (source : Text) : Segment :=
  (rules.findSome? fun rule => rule.find? source).getD (.literal (Text.percentDecode source))

section Rules

variable {source name : Text} {segment : Segment}

theorem nameBefore?_eq_some_iff {closing : Text} :
    nameBefore? closing source = some name ↔
      source = '{' :: (name ++ closing) ∧ isWildcardName name = true := by
  simp only [nameBefore?, Option.filter_eq_some_iff, Option.bind_eq_some_iff,
    Text.dropPrefix?_eq_some_iff, Text.dropSuffix?_eq_some_iff]
  constructor
  · rintro ⟨⟨_, rfl, rfl⟩, hname⟩
    exact ⟨rfl, hname⟩
  · rintro ⟨rfl, hname⟩
    exact ⟨⟨_, rfl, rfl⟩, hname⟩

theorem exists_find?_iff : (∃ rule : ShapeRule, rule.find? source = some segment) ↔
    Shape source segment := by
  constructor
  · rintro ⟨rule, hfind⟩
    cases rule with
    | endAnchor =>
        obtain ⟨rfl, hsegment⟩ := Option.ite_none_right_eq_some.1 hfind
        cases hsegment
        exact .endAnchor
    | rest =>
        obtain ⟨name, hname, rfl⟩ := Option.map_eq_some_iff.1 hfind
        exact shape_rest_iff.2 (nameBefore?_eq_some_iff.1 hname)
    | single =>
        obtain ⟨name, hname, rfl⟩ := Option.map_eq_some_iff.1 hfind
        exact shape_single_iff.2 (nameBefore?_eq_some_iff.1 hname)
  · intro h
    cases h with
    | endAnchor => exact ⟨.endAnchor, rfl⟩
    | rest hname =>
        exact ⟨.rest, Option.map_eq_some_iff.2 ⟨_, nameBefore?_eq_some_iff.2 ⟨rfl, hname⟩, rfl⟩⟩
    | single hname =>
        exact ⟨.single, Option.map_eq_some_iff.2 ⟨_, nameBefore?_eq_some_iff.2 ⟨rfl, hname⟩, rfl⟩⟩

/-- The order of the rules is irrelevant, as long as none of them is missing. -/
theorem byRules_eq_ofSource {rules : List ShapeRule} (h : ∀ rule, rule ∈ rules)
    (source : Text) : byRules rules source = ofSource source := by
  rw [byRules]
  cases hfound : rules.findSome? fun rule => rule.find? source with
  | some segment =>
      obtain ⟨rule, -, hfind⟩ := List.exists_of_findSome?_eq_some hfound
      exact (exists_find?_iff.1 ⟨rule, hfind⟩).ofSource_eq.symm
  | none =>
      symm
      refine ofSource_eq_literal_iff.2 ⟨rfl, ?_⟩
      intro segment hshape
      obtain ⟨rule, hfind⟩ := exists_find?_iff.2 hshape
      rw [List.findSome?_eq_none_iff.1 hfound rule (h rule)] at hfind
      cases hfind

end Rules

/-- **Exactly three shapes are recognised.** A text is read as an anchor or a wildcard exactly if it
has that shape, with a wildcard name in it, and as the literal of its decoded text otherwise. The
shapes exclude one another, so that their rules can be tried in any order. What is read from a shape
is displayed as the text, and what is displayed is read back. -/
theorem ofSource_recognises_shapes (source : Text) :
    (ofSource source = .endAnchor ↔ source = ['{', '$', '}']) ∧
    (∀ name, ofSource source = .rest name ↔
      source = '{' :: (name ++ ['.', '.', '.', '}']) ∧ isWildcardName name = true) ∧
    (∀ name, ofSource source = .single name ↔
      source = '{' :: (name ++ ['}']) ∧ isWildcardName name = true) ∧
    (∀ text, ofSource source = .literal text ↔
      text = Text.percentDecode source ∧ ∀ segment, ¬ Shape source segment) ∧
    (∀ segment segment', Shape source segment → Shape source segment' → segment = segment') ∧
    (∀ rules : List ShapeRule, (∀ rule, rule ∈ rules) →
      byRules rules source = ofSource source) ∧
    ((∀ text, ofSource source ≠ .literal text) → (ofSource source).display = source) ∧
    ∀ segment : Segment, (∀ text, segment ≠ .literal text) → segment.WellNamed →
      ofSource segment.display = segment := by
  refine ⟨?_, ?_, ?_, fun text => ofSource_eq_literal_iff, fun _ _ => Shape.unique, ?_, ?_, ?_⟩
  · exact (ofSource_eq_iff_shape (by nofun)).trans shape_endAnchor_iff
  · exact fun name => (ofSource_eq_iff_shape (by nofun)).trans shape_rest_iff
  · exact fun name => (ofSource_eq_iff_shape (by nofun)).trans shape_single_iff
  · exact fun rules hrules => byRules_eq_ofSource hrules source
  · exact fun hliteral => ((ofSource_eq_iff_shape hliteral).1 rfl).display_eq
  · exact fun segment hliteral hnamed => (shape_display hliteral hnamed).ofSource_eq

/-- A wildcard that is found by the rules in reverse, and texts that fall short of the shapes. -/
theorem ofSource_recognises_shapes_nearMisses :
    byRules [.single, .rest, .endAnchor] "{é_1...}".toList = .rest "é_1".toList ∧
    (∀ segment, ¬ Shape "{a....}".toList segment) ∧
    (∀ segment, ¬ Shape "{{id}}".toList segment) ∧
    ofSource (Segment.rest "é_1".toList).display = .rest "é_1".toList := by
  have hrules : ∀ rule : ShapeRule, rule ∈ [ShapeRule.single, .rest, .endAnchor] := by
    rintro (_ | _ | _) <;> decide
  have hname : isWildcardName "é_1".toList = true := by decide
  have hnamed : (Segment.rest "é_1".toList).WellNamed := by
    intro name hmatch
    cases hmatch
    exact hname
  obtain ⟨-, hrest, -, -, -, hanyOrder, -, hback⟩ := ofSource_recognises_shapes "{é_1...}".toList
  obtain ⟨-, -, -, hdots, -⟩ := ofSource_recognises_shapes "{a....}".toList
  obtain ⟨-, -, -, hbraces, -⟩ := ofSource_recognises_shapes "{{id}}".toList
  refine ⟨?_, ?_, ?_, hback _ (by nofun) hnamed⟩
  · rw [hanyOrder _ hrules]
    exact (hrest _).2 ⟨rfl, hname⟩
  · exact ((hdots "{a....}".toList).1 (by decide)).2
  · exact ((hbraces "{{id}}".toList).1 (by decide)).2

end RoutePattern.Segment
