import Mathlib.Data.List.Basic
import RoutePattern.Proofs.Placement

/-!
# Mounting one pattern under another

A path that is written after a pattern text adds its segments to those of the pattern. Reading and
building follow the concatenation: the pieces of both texts stand one after the other, and so do
the values and the texts that they are placed in (`Cut.append`, `Placed.append`). The one thing
that changes is a trailing slash of the first text, which is no longer last and takes no value.
-/

namespace RoutePattern.Pattern

/-! ## Reading a concatenation -/

theorem Cut.append {source path host : Text} {method : Option Text} {pieces later : List Text}
    (h : Cut source method host pieces) (hpath : Cut path none [] later) :
    Cut (source ++ path) method host (pieces ++ later) := by
  refine ⟨?_, ?_, h.method_no_space, h.host_no_slash, ?_⟩
  · have hsource := h.source_eq
    have hlater : path = later.flatMap ('/' :: ·) := by simpa using hpath.source_eq
    rw [List.flatMap_append, ← List.append_assoc, ← hsource, ← hlater]
  · intro hmethod hspace
    rcases List.mem_append.1 hspace with hspace | hspace
    · exact h.no_space hmethod hspace
    · exact hpath.no_space rfl hspace
  · intro piece hpiece
    rcases List.mem_append.1 hpiece with hpiece | hpiece
    · exact h.piece_no_slash piece hpiece
    · exact hpath.piece_no_slash piece hpiece

/-- A text that opens with a slash and holds no space is all path. -/
theorem exists_cut_of_slash {path : Text} (hslash : path.head? = some '/') (hspace : ' ' ∉ path) :
    ∃ piece pieces, Cut path none [] (piece :: pieces) := by
  obtain ⟨method, host, pieces, hcut⟩ := exists_cut path
  have hsource := hcut.source_eq
  cases method with
  | some m =>
      refine absurd ?_ hspace
      rw [hsource]
      simp
  | none =>
      cases host with
      | cons c host =>
          have hc : c = '/' := by simpa [hsource] using hslash
          exact absurd (hc ▸ List.mem_cons_self) hcut.host_no_slash
      | nil =>
          cases pieces with
          | nil => simp [hsource] at hslash
          | cons piece pieces => exact ⟨piece, pieces, hcut⟩

/-! ## Building a concatenation -/

/-- Values for the wildcards alone leave a trailing slash empty, so that more may follow it. -/
theorem Placed.append {segments later : List Segment} {vs ws ts us : List Text}
    (hv : Placed segments vs ts) (hw : Placed later ws us) (hlater : later ≠ [])
    (hcount : vs.length = segments.countP Segment.isWildcard) :
    Placed (segments ++ later) (vs ++ ws) (ts ++ us) := by
  induction hv with
  | nil => exact hw
  | emptySlot => exact .literal (fun h => hlater h.2) hw
  | filledSlot value =>
      -- A filled slot holds a value more than there are wildcards.
      cases hcount
  | literal hslot _ ih =>
      refine .literal (fun h => hlater (List.append_eq_nil_iff.1 h.2).2) (ih ?_)
      simpa [List.countP_cons, Segment.isWildcard] using hcount
  | endAnchor _ ih =>
      refine .endAnchor (ih ?_)
      simpa [List.countP_cons, Segment.isWildcard] using hcount
  | wildcard hwildcard value _ ih =>
      refine .wildcard hwildcard value (ih ?_)
      simpa [List.countP_cons, hwildcard] using hcount

/-- What a pattern becomes when another one is mounted under it. -/
structure Mounted (outer inner mounted : Pattern) : Prop where
  source : mounted.source = outer.source ++ inner.source
  method : mounted.method = outer.method
  host : mounted.host = outer.host
  segments : mounted.segments = outer.segments ++ inner.segments
  required : mounted.arity.required = outer.arity.required + inner.arity.required
  trailing : mounted.arity.trailing = inner.arity.trailing
  /-- The path is the one path after the other. -/
  build_ok : ∀ (vs ws : List Text) (url : Text), vs.length = outer.arity.required →
    inner.build ws = .ok url → ∃ front, outer.build vs = .ok front ∧
      mounted.build (vs ++ ws) = .ok (front ++ url)
  /-- Too few values are too few and too many are too many. -/
  build_error : ∀ (vs ws : List Text) (error : BuildError), vs.length = outer.arity.required →
    inner.build ws = .error error → (error.kind = .notEnough ∨ error.kind = .tooMany) ∧
      ∃ error', mounted.build (vs ++ ws) = .error error' ∧ error'.kind = error.kind

/-- Segments decide how mounted patterns build. -/
theorem mounted_of_segments {outer inner mounted : Pattern}
    (hsource : mounted.source = outer.source ++ inner.source)
    (hmethod : mounted.method = outer.method) (hhost : mounted.host = outer.host)
    (hinner : inner.host = none)
    (hsegments : mounted.segments = outer.segments ++ inner.segments)
    (hne : inner.segments ≠ []) : Mounted outer inner mounted := by
  have hrequired : mounted.arity.required = outer.arity.required + inner.arity.required := by
    simp only [arity, hsegments, List.countP_append]
  -- The last segment is the inner pattern's, and with it the room after a trailing slash.
  have hlast : mounted.segments.getLast? = inner.segments.getLast? := by
    rw [hsegments]
    exact List.getLast?_append_of_ne_nil outer.segments hne
  have hmax : mounted.arity.max = outer.arity.required + inner.arity.max := by
    simp only [arity_max, slotRoom, hrequired, hlast]
    omega
  refine ⟨hsource, hmethod, hhost, hsegments, hrequired, ?_, ?_, ?_⟩
  · simp only [arity, hasTrailingSlash, hlast]
  · intro vs ws url hcount hbuild
    obtain ⟨us, hus, rfl⟩ := build_eq_ok_iff.1 hbuild
    have hvs : outer.arity.accepts vs.length = true := by
      rw [Arity.accepts_iff, arity_max]
      omega
    obtain ⟨ts, hts⟩ := accepts_iff_exists_placed.1 hvs
    have hplaced : Placed mounted.segments (vs ++ ws) (ts ++ us) :=
      hsegments ▸ hts.append hus hne hcount
    refine ⟨_, hts.build_eq, ?_⟩
    rw [hplaced.build_eq, assemble, assemble, assemble, hhost, hinner, List.flatMap_append,
      List.append_assoc]
    rfl
  · intro vs ws error hcount hbuild
    rcases build_cases inner ws with ⟨hlow, hfew⟩ | ⟨hhigh, hmany⟩ | ⟨us, -, hok⟩
    · cases hfew.symm.trans hbuild
      have hlow' : (vs ++ ws).length < mounted.arity.required := by
        rw [List.length_append]
        omega
      exact ⟨Or.inl rfl, _, build_of_lt_required hlow', rfl⟩
    · cases hmany.symm.trans hbuild
      have hhigh' : mounted.arity.max < (vs ++ ws).length := by
        rw [List.length_append]
        omega
      exact ⟨Or.inr rfl, _, build_of_max_lt hhigh', rfl⟩
    · cases hok.symm.trans hbuild

/-- **Mounting.** Let `path` open with a slash and hold no space. Written after a pattern text
whose last segment may stand anywhere, it is read exactly when it is read alone, and the patterns
are mounted. Written after a segment that has to be the last one, it makes that segment an error. -/
theorem parse_append {source path : Text} {outer : Pattern} (hparse : parse source = .ok outer)
    (hslash : path.head? = some '/') (hspace : ' ' ∉ path) :
    ((∀ last, outer.segments.getLast? = some last → last.isTerminal = false) →
      ((∃ mounted, parse (source ++ path) = .ok mounted) ↔ ∃ inner, parse path = .ok inner) ∧
      ∀ mounted inner, parse (source ++ path) = .ok mounted → parse path = .ok inner →
        Mounted outer inner mounted) ∧
    (∀ name, outer.segments.getLast? = some (.rest name) →
      parse (source ++ path) = .error (.restNotLast (source ++ path) name)) ∧
    (outer.segments.getLast? = some .endAnchor →
      parse (source ++ path) = .error (.endAnchorNotLast (source ++ path))) := by
  obtain ⟨method, host, pieces, hcut, hterminals, rfl⟩ := exists_cut_of_parse hparse
  obtain ⟨piece, later, hpath⟩ := exists_cut_of_slash hslash hspace
  have happend := hcut.append hpath
  have hrefused : ∀ {last : Segment},
      (ofCut source method host pieces).segments.getLast? = some last →
      last.isTerminal = true →
      parse (source ++ path) = .error (misplacedError (source ++ path) last) := by
    intro last hlast hterminal
    refine happend.parse_of_misplaced ?_
    rw [List.map_append]
    exact misplaced?_of_terminal hterminals hlast hterminal _ _
  refine ⟨?_, fun name hlast => hrefused hlast rfl, fun hlast => hrefused hlast rfl⟩
  intro hlast
  -- No segment of the outer pattern has to be last, so that a fault can only be in the path.
  have hpassed : misplaced? ((pieces ++ piece :: later).map Segment.ofSource) =
      misplaced? ((piece :: later).map Segment.ofSource) := by
    rw [List.map_append]
    exact misplaced?_append (not_terminal_of_last hterminals hlast) _
  constructor
  · constructor
    · rintro ⟨mounted, hmounted⟩
      have hnone := (happend.parse_eq_ok_iff.1 hmounted).1
      exact ⟨_, hpath.parse_eq_ok_iff.2 ⟨hpassed ▸ hnone, rfl⟩⟩
    · rintro ⟨inner, hinner⟩
      have hnone := (hpath.parse_eq_ok_iff.1 hinner).1
      exact ⟨_, happend.parse_eq_ok_iff.2 ⟨hpassed.trans hnone, rfl⟩⟩
  · intro mounted inner hmounted hinner
    obtain ⟨-, rfl⟩ := happend.parse_eq_ok_iff.1 hmounted
    obtain ⟨-, rfl⟩ := hpath.parse_eq_ok_iff.1 hinner
    exact mounted_of_segments rfl rfl rfl rfl List.map_append (List.cons_ne_nil _ _)

/-- A path under a trailing slash, under a wildcard for the rest, and under an anchor. -/
theorem parse_append_trailing_slash :
    (∃ outer inner mounted, parse "GET h/{a}/".toList = .ok outer ∧
      parse "/{b}".toList = .ok inner ∧ parse "GET h/{a}//{b}".toList = .ok mounted ∧
      Mounted outer inner mounted) ∧
    parse "/{r...}/x".toList = .error (.restNotLast "/{r...}/x".toList ['r']) ∧
    parse "/{$}/x".toList = .error (.endAnchorNotLast "/{$}/x".toList) := by
  refine ⟨⟨_, _, _, rfl, rfl, rfl, ?_⟩, ?_, ?_⟩
  · have hmount := @parse_append "GET h/{a}/".toList "/{b}".toList _ rfl rfl (by decide)
    refine (hmount.1 ?_).2 _ _ rfl rfl
    intro last hlast
    cases hlast
    rfl
  · exact (@parse_append "/{r...}".toList "/x".toList _ rfl rfl (by decide)).2.1 ['r'] rfl
  · exact (@parse_append "/{$}".toList "/x".toList _ rfl rfl (by decide)).2.2 rfl

end RoutePattern.Pattern
