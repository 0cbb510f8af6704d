import RoutePattern.Proofs.Placement

/-!
# Fixing a value in the pattern text

A value can be written into a pattern text before it is read: escaped, in the place of a wildcard.
The text that results (`substitute`) is read as the same pattern with a literal for that wildcard,
whatever the value holds, and takes all the other values as before. If the wildcard was the last
segment and the value is empty, the literal is a trailing slash; its room stays unused, because the
value that stood there is gone from the list.
-/

namespace RoutePattern.Pattern

/-! ## The text -/

def isWildcardPiece (piece : Text) : Bool :=
  (Segment.ofSource piece).isWildcard

/-- The pieces with another text in place of the wildcard at an index, counting wildcards only. -/
def replaceWildcard (replacement : Text) : Nat → List Text → List Text
  | _, [] => []
  | index, piece :: pieces =>
    if isWildcardPiece piece then
      if index = 0 then replacement :: pieces
      else piece :: replaceWildcard replacement (index - 1) pieces
    else piece :: replaceWildcard replacement index pieces

/-- The pattern text with a value, every byte of it escaped, in place of the source text of the
wildcard at an index. The method, the host and the other segments stand as they were written. -/
def substitute (source : Text) (index : Nat) (value : Text) : Text :=
  let method := (Text.cut? ' ' source).elim [] fun cut => cut.1 ++ [' ']
  let path := Text.split '/' (cutMethod source).2
  method ++ path.1 ++
    (replaceWildcard (Text.percentEncode value) index path.2).flatMap ('/' :: ·)

theorem exists_append_of_lt_countP {α : Type} {p : α → Bool} {xs : List α} {index : Nat}
    (h : index < xs.countP p) :
    ∃ before x after, xs = before ++ x :: after ∧ p x = true ∧ before.countP p = index := by
  induction xs generalizing index with
  | nil => cases h
  | cons y ys ih =>
      rw [List.countP_cons] at h
      cases hy : p y with
      | false =>
          obtain ⟨before, x, after, rfl, hx, hcount⟩ := ih (by simpa [hy] using h)
          exact ⟨y :: before, x, after, rfl, hx, by simp [hy, hcount]⟩
      | true =>
          cases index with
          | zero => exact ⟨[], y, ys, rfl, hy, rfl⟩
          | succ index =>
              have hlater : index < ys.countP p := by
                simp only [hy, if_true] at h
                omega
              obtain ⟨before, x, after, rfl, hx, hcount⟩ := ih hlater
              exact ⟨y :: before, x, after, rfl, hx, by simp [hy, hcount]⟩

theorem replaceWildcard_append (replacement : Text) {before : List Text} {piece : Text}
    (after : List Text) (hpiece : isWildcardPiece piece = true) :
    replaceWildcard replacement (before.countP isWildcardPiece) (before ++ piece :: after) =
      before ++ replacement :: after := by
  induction before with
  | nil =>
      rw [List.nil_append, replaceWildcard, if_pos hpiece]
      rfl
  | cons first before ih =>
      rw [List.cons_append, replaceWildcard]
      cases hfirst : isWildcardPiece first with
      | true => simp [hfirst, ih]
      | false => simp [hfirst, ih]

/-- The cut of a text with another piece in one place. -/
theorem Cut.replace {source host piece replacement : Text} {method : Option Text}
    {before after : List Text} (h : Cut source method host (before ++ piece :: after))
    (hslash : '/' ∉ replacement) (hspace : ' ' ∉ replacement) :
    Cut (method.elim [] (· ++ [' ']) ++ host ++
        (before ++ replacement :: after).flatMap ('/' :: ·))
      method host (before ++ replacement :: after) := by
  refine ⟨rfl, ?_, h.method_no_space, h.host_no_slash, ?_⟩
  · intro hmethod
    -- Without a method no part of the text holds a space, and the new piece holds none either.
    have hsource := h.no_space hmethod
    rw [h.source_eq, hmethod] at hsource
    rw [hmethod]
    simp only [Option.elim_none, List.nil_append, List.flatMap_append, List.flatMap_cons,
      List.mem_append, List.mem_cons, not_or] at hsource ⊢
    obtain ⟨hhost, hbefore, ⟨hopening, -⟩, hafter⟩ := hsource
    exact ⟨hhost, hbefore, ⟨hopening, hspace⟩, hafter⟩
  · intro p hp
    simp only [List.mem_append, List.mem_cons] at hp
    rcases hp with hp | rfl | hp
    · exact h.piece_no_slash p (by simp [hp])
    · exact hslash
    · exact h.piece_no_slash p (by simp [hp])

theorem Cut.substitute_eq {source host : Text} {method : Option Text} {pieces : List Text}
    (h : Cut source method host pieces) (index : Nat) (value : Text) :
    substitute source index value = method.elim [] (· ++ [' ']) ++ host ++
      (replaceWildcard (Text.percentEncode value) index pieces).flatMap ('/' :: ·) := by
  rw [substitute, h.split_eq, h.cut?_eq]
  cases method with
  | none => rfl
  | some m => rfl

example : substitute "GET h/{x}/{p...}".toList 1 ['/'] = "GET h/{x}/%2F".toList := by decide

/-! ## The pattern -/

theorem misplaced?_replace {before after : List Segment} {segment replacement : Segment}
    (h : misplaced? (before ++ segment :: after) = none)
    (hreplacement : replacement.isTerminal = false) :
    misplaced? (before ++ replacement :: after) = none := by
  induction before with
  | nil =>
      refine misplaced?_cons_eq_none_iff.2 ⟨fun hterminal => ?_, ?_⟩
      · rw [hreplacement] at hterminal
        cases hterminal
      · exact (misplaced?_cons_eq_none_iff.1 h).2
  | cons first before ih =>
      obtain ⟨hfirst, hlater⟩ := misplaced?_cons_eq_none_iff.1 h
      refine misplaced?_cons_eq_none_iff.2 ⟨fun hterminal => ?_, ih hlater⟩
      have hnil := hfirst hterminal
      simp at hnil

theorem countP_replace {before after : List Segment} {wildcard : Segment} (value : Text)
    (hwildcard : wildcard.isWildcard = true) :
    (before ++ .literal value :: after).countP Segment.isWildcard + 1 =
      (before ++ wildcard :: after).countP Segment.isWildcard := by
  have hliteral : ¬ (Segment.literal value).isWildcard = true := nofun
  rw [List.countP_append, List.countP_append, List.countP_cons_of_pos hwildcard,
    List.countP_cons_of_neg hliteral]
  rfl

/-- A literal in place of a wildcard makes the text that its value would have made. -/
theorem Placed.replace {before after : List Segment} {wildcard : Segment} {value : Text}
    {values texts : List Text} (hwildcard : wildcard.isWildcard = true)
    (h : Placed (before ++ wildcard :: after) values texts)
    (hvalue : values[before.countP Segment.isWildcard]? = some value) :
    Placed (before ++ .literal value :: after)
      (values.eraseIdx (before.countP Segment.isWildcard)) texts := by
  induction before generalizing values texts with
  | nil =>
      obtain ⟨v, later, ts, rfl, rfl, hlater⟩ := (placed_wildcard_iff hwildcard).1 h
      have hv : v = value := by simpa using hvalue
      subst hv
      by_cases hslot : v = [] ∧ after = []
      · -- The wildcard was last, so that no value is left for the trailing slash.
        obtain ⟨rfl, rfl⟩ := hslot
        cases hlater
        exact .emptySlot
      · exact .literal hslot hlater
  | cons first before ih =>
      have hslot : ∀ text : Text, ¬ (text = [] ∧ before ++ wildcard :: after = []) := by simp
      have hslot' : ∀ text : Text, ¬ (text = [] ∧ before ++ .literal value :: after = []) := by
        simp
      cases hfirst : first.isWildcard with
      | true =>
          rw [List.countP_cons_of_pos hfirst] at hvalue ⊢
          obtain ⟨v, later, ts, rfl, rfl, hlater⟩ := (placed_wildcard_iff hfirst).1 h
          exact .wildcard hfirst v (ih hlater hvalue)
      | false =>
          rw [List.countP_cons_of_neg (by simp [hfirst])] at hvalue ⊢
          cases first with
          | literal text =>
              obtain ⟨ts, rfl, hlater⟩ := (placed_literal_iff (hslot text)).1 h
              exact .literal (hslot' text) (ih hlater hvalue)
          | endAnchor =>
              obtain ⟨ts, rfl, hlater⟩ := placed_endAnchor_iff.1 h
              exact .endAnchor (ih hlater hvalue)
          | single name => cases hfirst
          | rest name => cases hfirst

/-- **Partial substitution commutes with reversal.** A text in which a value stands, escaped, for
one of its wildcards can be read, takes one value less, and makes of the other values the path that
the whole text makes of all of them. -/
theorem build_substitute {source : Text} {pattern : Pattern}
    (hparse : parse source = .ok pattern) {index : Nat}
    (hindex : index < pattern.arity.required) (value : Text) :
    ∃ fixed, parse (substitute source index value) = .ok fixed ∧
      fixed.arity.required + 1 = pattern.arity.required ∧
      ∀ values, pattern.arity.accepts values.length = true → values[index]? = some value →
        ∃ url, pattern.build values = .ok url ∧
          fixed.build (values.eraseIdx index) = .ok url := by
  obtain ⟨method, host, pieces, hcut, hterminals, rfl⟩ := exists_cut_of_parse hparse
  have hpieces : index < pieces.countP isWildcardPiece := by
    have hcount := hindex
    rw [arity, ofCut, List.countP_map] at hcount
    exact hcount
  obtain ⟨before, piece, after, rfl, hwildcard, rfl⟩ := exists_append_of_lt_countP hpieces
  have hfixed := hcut.replace (Text.slash_not_mem_percentEncode value)
    (Text.space_not_mem_percentEncode value)
  -- From here on the segments stand around the wildcard as the pieces do.
  have hcount : (before.map Segment.ofSource).countP Segment.isWildcard =
      before.countP isWildcardPiece := List.countP_map
  have hsegments : (before ++ piece :: after).map Segment.ofSource =
      before.map Segment.ofSource ++ Segment.ofSource piece :: after.map Segment.ofSource := by
    rw [List.map_append, List.map_cons]
  have hsegments' : (before ++ Text.percentEncode value :: after).map Segment.ofSource =
      before.map Segment.ofSource ++ .literal value :: after.map Segment.ofSource := by
    rw [List.map_append, List.map_cons, Segment.ofSource_percentEncode]
  rw [hcut.substitute_eq, replaceWildcard_append _ after hwildcard]
  refine ⟨_, hfixed.parse_eq_ok_iff.2 ⟨?_, rfl⟩, ?_, ?_⟩
  · rw [hsegments] at hterminals
    rw [hsegments']
    exact misplaced?_replace hterminals rfl
  · change List.countP _ (List.map _ _) + 1 = List.countP _ (List.map _ _)
    rw [hsegments, hsegments']
    exact countP_replace value hwildcard
  · intro values haccepts hvalue
    obtain ⟨texts, htexts⟩ := accepts_iff_exists_placed.1 haccepts
    refine ⟨_, htexts.build_eq, ?_⟩
    rw [ofCut, hsegments] at htexts
    rw [← hcount] at hvalue ⊢
    have hplaced := htexts.replace hwildcard hvalue
    rw [← hsegments'] at hplaced
    exact hplaced.build_eq

/-- An empty value for the last wildcard makes a trailing slash. -/
theorem build_substitute_last : ∃ pattern fixed, parse "GET h/{x}/{p...}".toList = .ok pattern ∧
    parse "GET h/{x}/".toList = .ok fixed ∧ fixed.arity.required + 1 = pattern.arity.required ∧
    ∃ url, pattern.build [['a'], []] = .ok url ∧ fixed.build [['a']] = .ok url := by
  have hparse : parse "GET h/{x}/{p...}".toList = .ok
      { source := "GET h/{x}/{p...}".toList, method := some ['G', 'E', 'T'], host := some ['h'],
        segments := [.single ['x'], .rest ['p']] } := rfl
  obtain ⟨fixed, hfixed, hrequired, hbuild⟩ := build_substitute hparse (by decide : 1 < 2) []
  exact ⟨_, fixed, hparse, hfixed, hrequired, hbuild [['a'], []] (by decide) rfl⟩

end RoutePattern.Pattern
