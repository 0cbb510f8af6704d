import RoutePattern.Proofs.Grammar

/-!
# Which patterns there are

Reading gives exactly the patterns whose parts are `Expressible`: no empty method or host, no
space in a method, no slash in a host, wildcard names only, and nothing after a segment that has to
be the last one. Literals are free. For each of them `Pattern.write` gives a text that is read as
these parts, whatever the literals hold.
-/

namespace RoutePattern.Pattern

/-- The parts that some pattern text has. -/
structure Expressible (method host : Option Text) (segments : List Segment) : Prop where
  method : ∀ m, method = some m → m ≠ [] ∧ ' ' ∉ m
  host : ∀ h, host = some h → h ≠ [] ∧ '/' ∉ h
  names : ∀ segment ∈ segments, segment.WellNamed
  terminals : ∀ segment ∈ segments.dropLast, segment.isTerminal = false

/-! ## What is read is expressible -/

theorem part?_eq_some_iff {t part : Text} : part? t = some part ↔ t ≠ [] ∧ t = part := by
  unfold part?
  split
  · simp [*]
  · simp [*]

theorem not_mem_getD {part : Option Text} {c : Char} (h : ∀ t, part = some t → c ∉ t) :
    c ∉ part.getD [] := by
  cases part with
  | none => exact List.not_mem_nil
  | some t => exact h t rfl

theorem part?_getD {part : Option Text} (h : ∀ t, part = some t → t ≠ []) :
    part? (part.getD []) = part := by
  cases part with
  | none => rfl
  | some t => exact part?_eq_some_iff.2 ⟨h t rfl, rfl⟩

theorem expressible_of_parse {source : Text} {pattern : Pattern}
    (h : parse source = .ok pattern) :
    Expressible pattern.method pattern.host pattern.segments := by
  obtain ⟨method, host, pieces, hcut, hplaced, rfl⟩ := exists_cut_of_parse h
  refine ⟨?_, ?_, ?_, ?_⟩
  · intro m hm
    obtain ⟨hne, rfl⟩ := part?_eq_some_iff.1 hm
    exact ⟨hne, not_mem_getD hcut.method_no_space⟩
  · intro t ht
    obtain ⟨hne, rfl⟩ := part?_eq_some_iff.1 ht
    exact ⟨hne, hcut.host_no_slash⟩
  · intro segment hsegment
    obtain ⟨piece, -, rfl⟩ := List.mem_map.1 hsegment
    exact Segment.wellNamed_ofSource piece
  · exact misplaced?_eq_none_iff.1 hplaced

theorem isWildcardName_of_mem_wildcards {source name : Text} {pattern : Pattern}
    (h : parse source = .ok pattern) (hname : name ∈ pattern.wildcards) :
    isWildcardName name = true := by
  obtain ⟨segment, hsegment, hname⟩ := List.mem_filterMap.1 hname
  exact (expressible_of_parse h).names segment hsegment name hname

/-! ## What is expressible is read -/

variable {method host : Option Text} {segments : List Segment}

theorem Expressible.cut_write (h : Expressible method host segments) :
    Cut (write method host segments) (some (method.getD [])) (host.getD [])
      (segments.map Segment.source) := by
  refine ⟨?_, nofun, ?_, ?_, ?_⟩
  · simp [write, List.flatMap_map]
  · -- The space is always written, so that the method is the text before it, empty or not.
    intro m hm
    cases hm
    exact not_mem_getD fun t ht => (h.method t ht).2
  · exact not_mem_getD fun t ht => (h.host t ht).2
  · intro piece hpiece
    obtain ⟨segment, hsegment, rfl⟩ := List.mem_map.1 hpiece
    exact Segment.slash_not_mem_source (h.names segment hsegment)

theorem map_ofSource_map_source (h : ∀ segment ∈ segments, segment.WellNamed) :
    (segments.map Segment.source).map Segment.ofSource = segments := by
  induction segments with
  | nil => rfl
  | cons segment segments ih =>
      rw [List.map_cons, List.map_cons, Segment.ofSource_source (h segment List.mem_cons_self),
        ih fun s hs => h s (List.mem_cons_of_mem _ hs)]

theorem Expressible.parse_write (h : Expressible method host segments) :
    parse (write method host segments) =
      .ok { source := write method host segments, method, host, segments } := by
  have hsegments := map_ofSource_map_source h.names
  have hmethod : part? (method.getD []) = method := part?_getD fun t ht => (h.method t ht).1
  have hhost : part? (host.getD []) = host := part?_getD fun t ht => (h.host t ht).1
  refine h.cut_write.parse_eq_ok_iff.2 ⟨?_, ?_⟩
  · rw [hsegments]
    exact misplaced?_eq_none_iff.2 h.terminals
  · rw [ofCut, hsegments, Option.getD_some, hmethod, hhost]

/-- **The image of reading.** The parts of the patterns that are read are the expressible ones, and
the text that is written for expressible parts is read as them. -/
theorem exists_parse_iff_expressible (method host : Option Text)
    (segments : List Segment) :
    ((∃ source pattern, parse source = .ok pattern ∧ pattern.method = method ∧
        pattern.host = host ∧ pattern.segments = segments) ↔
      Expressible method host segments) ∧
    (Expressible method host segments →
      parse (write method host segments) =
        .ok { source := write method host segments, method, host, segments }) := by
  refine ⟨⟨?_, ?_⟩, Expressible.parse_write⟩
  · rintro ⟨source, pattern, h, rfl, rfl, rfl⟩
    exact expressible_of_parse h
  · intro h
    exact ⟨_, _, h.parse_write, rfl, rfl, rfl⟩

/-- Literals that look like syntax when they are not escaped, and syntax beside them. -/
def lookalikes : List Segment :=
  [.literal Segment.anchorText, .literal [], .single ['é'], .literal ['a', '/', ' '], .endAnchor]

theorem parse_write_lookalikes :
    Expressible none (some ['h']) lookalikes ∧
      parse " h/%7B%24%7D//{é}/%61%2F%20/{$}".toList =
        .ok { source := " h/%7B%24%7D//{é}/%61%2F%20/{$}".toList, method := none,
              host := some ['h'], segments := lookalikes } := by
  have h : Expressible none (some ['h']) lookalikes := by
    refine ⟨nofun, ?_, ?_, by decide⟩
    · intro host hhost
      cases hhost
      decide
    · intro segment hsegment name hname
      simp only [lookalikes, List.mem_cons, List.not_mem_nil, or_false] at hsegment
      rcases hsegment with rfl | rfl | rfl | rfl | rfl
      · cases hname
      · cases hname
      · cases hname
        decide
      · cases hname
      · cases hname
  exact ⟨h, (exists_parse_iff_expressible none (some ['h']) lookalikes).2 h⟩

end RoutePattern.Pattern
