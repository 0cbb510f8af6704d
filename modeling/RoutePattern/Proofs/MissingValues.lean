import RoutePattern.Proofs.Naming
import RoutePattern.Proofs.TableHistory

/-!
# Missing values

Values by name are looked up in the order of the wildcards, up to the first that has none. Building
by name therefore fails with just that wildcard and in no other way
(`Pattern.buildNamed_eq_error_iff`), and nothing of the pairs counts but the last value of each
wildcard's name (`Table.urlForParams_looks_up_wildcards`).
-/

namespace RoutePattern

/-- The first of the names that is no key. -/
structure FirstMissing (names keys : List Text) (name : Text) : Prop where
  not_mem : name ∉ keys
  first : ∃ front later, names = front ++ name :: later ∧ ∀ earlier ∈ front, earlier ∈ keys

theorem firstMissing_iff_find? {names keys : List Text} {name : Text} :
    FirstMissing names keys name ↔ names.find? (fun n => !decide (n ∈ keys)) = some name := by
  rw [List.find?_eq_some_iff_append]
  simp only [Bool.not_eq_true', decide_eq_false_iff_not, Bool.not_not, decide_eq_true_eq]
  constructor
  · rintro ⟨hname, hfirst⟩
    exact ⟨hname, hfirst⟩
  · rintro ⟨hname, hfirst⟩
    exact ⟨hname, hfirst⟩

theorem exists_firstMissing_iff {names keys : List Text} :
    (∃ name, FirstMissing names keys name) ↔ ∃ name ∈ names, name ∉ keys := by
  simp only [firstMissing_iff_find?, ← Option.isSome_iff_exists, List.find?_isSome]
  simp

namespace Pattern

/-! ## Placing by name -/

theorem placeNamed_congr {params params' : NameMap Text} {segment : Segment}
    (h : ∀ name, segment.name? = some name → params.get? name = params'.get? name) :
    placeNamed params segment = placeNamed params' segment := by
  cases segment with
  | literal text => rfl
  | endAnchor => rfl
  | single name => rw [placeNamed, placeNamed, h name rfl]
  | rest name => rw [placeNamed, placeNamed, h name rfl]

theorem mapM_placeNamed_congr {params params' : NameMap Text} {segments : List Segment}
    (h : ∀ name ∈ segments.filterMap Segment.name?, params.get? name = params'.get? name) :
    segments.mapM (placeNamed params) = segments.mapM (placeNamed params') := by
  induction segments with
  | nil => rfl
  | cons segment segments ih =>
      have hsegment : placeNamed params segment = placeNamed params' segment := by
        apply placeNamed_congr
        intro name hname
        exact h name (List.mem_filterMap.2 ⟨segment, List.mem_cons_self, hname⟩)
      have hsegments : segments.mapM (placeNamed params) = segments.mapM (placeNamed params') := by
        apply ih
        intro name hname
        obtain ⟨s, hs, hname⟩ := List.mem_filterMap.1 hname
        exact h name (List.mem_filterMap.2 ⟨s, List.mem_cons_of_mem _ hs, hname⟩)
      rw [List.mapM_cons, List.mapM_cons, hsegment, hsegments]

theorem placeNamed_of_missing {params : NameMap Text} {segment : Segment} {name : Text}
    (hname : segment.name? = some name) (hmissing : params.get? name = none) :
    placeNamed params segment = .error name := by
  cases segment with
  | single n | rest n =>
      cases hname
      rw [placeNamed, hmissing]
      rfl
  | literal text | endAnchor => cases hname

theorem exists_placeNamed_of_unnamed (params : NameMap Text) {segment : Segment}
    (hname : segment.name? = none) : ∃ text, placeNamed params segment = .ok text := by
  cases segment with
  | literal text => exact ⟨text, rfl⟩
  | endAnchor => exact ⟨[], rfl⟩
  | single name | rest name => cases hname

theorem mapM_placeNamed_cons_eq_error_iff {params : NameMap Text} {segment : Segment}
    {segments : List Segment} {text missing : Text} (h : placeNamed params segment = .ok text) :
    (segment :: segments).mapM (placeNamed params) = .error missing ↔
      segments.mapM (placeNamed params) = .error missing := by
  rw [List.mapM_cons, h]
  show (segments.mapM (placeNamed params) >>= fun texts => pure (text :: texts)) =
    .error missing ↔ _
  cases segments.mapM (placeNamed params) with
  | ok texts => exact iff_of_false nofun nofun
  | error name => rfl

/-- The first wildcard without a value stops the placing, and nothing else does. -/
theorem mapM_placeNamed_eq_error_iff {params : NameMap Text} {segments : List Segment}
    {missing : Text} :
    segments.mapM (placeNamed params) = .error missing ↔
      (segments.filterMap Segment.name?).find? (fun name => (params.get? name).isNone) =
        some missing := by
  induction segments with
  | nil => exact iff_of_false nofun nofun
  | cons segment segments ih =>
      rw [List.filterMap_cons]
      cases hname : segment.name? with
      | none =>
          obtain ⟨text, hplace⟩ := exists_placeNamed_of_unnamed params hname
          rw [mapM_placeNamed_cons_eq_error_iff hplace, ih]
      | some name =>
          dsimp only
          rw [List.find?_cons]
          cases hvalue : params.get? name with
          | some value =>
              rw [mapM_placeNamed_cons_eq_error_iff (placeNamed_of_wildcard hname hvalue), ih]
              rfl
          | none =>
              rw [List.mapM_cons, placeNamed_of_missing hname hvalue]
              show (Except.error name : Except Text (List Text)) = .error missing ↔
                some name = some missing
              rw [Except.error.injEq, Option.some.injEq]

theorem buildNamed_congr {pattern : Pattern} {params params' : NameMap Text}
    (h : ∀ name ∈ pattern.wildcards, params.get? name = params'.get? name) :
    pattern.buildNamed params = pattern.buildNamed params' := by
  rw [buildNamed, buildNamed, mapM_placeNamed_congr h]

theorem buildNamed_eq_error_iff {pattern : Pattern} {params : NameMap Text} {error : BuildError} :
    pattern.buildNamed params = .error error ↔
      ∃ missing, pattern.wildcards.find? (fun name => (params.get? name).isNone) = some missing ∧
        error = .missingValue pattern.source missing := by
  simp only [wildcards, ← mapM_placeNamed_eq_error_iff]
  rw [buildNamed]
  cases pattern.segments.mapM (placeNamed params) with
  | ok texts => simp
  | error name => simp [eq_comm]

end Pattern

namespace Table

/-! ## Pairs of names and values -/

theorem isNone_get?_ofList (params : List (Text × Text)) (name : Text) :
    ((NameMap.ofList params).get? name).isNone = !decide (name ∈ params.map Prod.fst) := by
  rw [NameMap.get?_ofList_eq_lastValue?, Bool.eq_iff_iff, Option.isNone_iff_eq_none,
    NameMap.lastValue?_eq_none_iff]
  simp

theorem urlForParams_eq_error_iff {table : Table} {name : Text} {pattern : Pattern}
    (hget : table.get? name = some pattern) {params : List (Text × Text)} {error : TableError} :
    table.urlForParams name params = .error error ↔
      ∃ missing, FirstMissing pattern.wildcards (params.map Prod.fst) missing ∧
        error = .build (.missingValue pattern.source missing) := by
  have hbuild : ∀ fault, pattern.buildNamed (NameMap.ofList params) = .error fault ↔
      ∃ missing, FirstMissing pattern.wildcards (params.map Prod.fst) missing ∧
        fault = .missingValue pattern.source missing := by
    intro fault
    simp only [Pattern.buildNamed_eq_error_iff, isNone_get?_ofList, firstMissing_iff_find?]
  rw [urlForParams_of_get?_eq_some hget, mapError_eq_error_iff]
  constructor
  · rintro ⟨fault, hnamed, rfl⟩
    obtain ⟨missing, hfirst, rfl⟩ := (hbuild fault).1 hnamed
    exact ⟨missing, hfirst, rfl⟩
  · rintro ⟨missing, hfirst, rfl⟩
    exact ⟨_, (hbuild _).2 ⟨missing, hfirst, rfl⟩, rfl⟩

/-- **Only the wildcards' names are looked up.** The path of a bound route fails with the first
wildcard, in the order of the pattern, whose name is the key of no pair, and in no other way, so
that it is built iff each wildcard's name is a key. Pairs that give every wildcard's name the same
last value give the same path or the same error, whatever else they hold and in whatever order. -/
theorem urlForParams_looks_up_wildcards {table : Table} {name : Text} {pattern : Pattern}
    (hget : table.get? name = some pattern) :
    (∀ params error, table.urlForParams name params = .error error ↔
      ∃ missing, FirstMissing pattern.wildcards (params.map Prod.fst) missing ∧
        error = .build (.missingValue pattern.source missing)) ∧
    (∀ params, (∃ error, table.urlForParams name params = .error error) ↔
      ∃ wildcard ∈ pattern.wildcards, wildcard ∉ params.map Prod.fst) ∧
    ∀ params params' : List (Text × Text),
      (∀ wildcard ∈ pattern.wildcards,
        NameMap.lastValue? wildcard params = NameMap.lastValue? wildcard params') →
      table.urlForParams name params = table.urlForParams name params' := by
  refine ⟨fun params error => urlForParams_eq_error_iff hget, ?_, ?_⟩
  · intro params
    rw [← exists_firstMissing_iff]
    constructor
    · rintro ⟨error, herror⟩
      obtain ⟨missing, hfirst, -⟩ := (urlForParams_eq_error_iff hget).1 herror
      exact ⟨missing, hfirst⟩
    · rintro ⟨missing, hfirst⟩
      exact ⟨_, (urlForParams_eq_error_iff hget).2 ⟨missing, hfirst, rfl⟩⟩
  · intro params params' hlast
    rw [urlForParams_of_get?_eq_some hget, urlForParams_of_get?_eq_some hget]
    congr 1
    apply Pattern.buildNamed_congr
    intro wildcard hwildcard
    rw [NameMap.get?_ofList_eq_lastValue?, NameMap.get?_ofList_eq_lastValue?,
      hlast wildcard hwildcard]

/-- A name that stands twice, and one that any value may stand for. -/
def crossing : Pattern where
  source := "GET h/{a}/{b}/{a}/{c...}".toList
  method := some "GET".toList
  host := some ['h']
  segments := [.single ['a'], .single ['b'], .single ['a'], .rest ['c']]

theorem urlForParams_looks_up_wildcards_crossing :
    (after [.insert ['r'] crossing.source]).get? ['r'] = some crossing ∧
    (after [.insert ['r'] crossing.source]).urlForParams ['r'] [(['z'], ['9']), (['a'], [])] =
      .error (.build (.missingValue "GET h/{a}/{b}/{a}/{c...}".toList ['b'])) ∧
    (after [.insert ['r'] crossing.source]).urlForParams ['r']
        [(['a'], ['1']), (['c'], "x/y".toList), (['b'], []), (['a'], ['2'])] =
      (after [.insert ['r'] crossing.source]).urlForParams ['r']
        [(['b'], ['3']), (['b'], []), (['a'], ['2']), (['d'], ['4']), (['c'], "x/y".toList)] := by
  have hget : (after [.insert ['r'] crossing.source]).get? ['r'] = some crossing := rfl
  have hfirst : FirstMissing crossing.wildcards [['z'], ['a']] ['b'] :=
    ⟨by decide, [['a']], [['a'], ['c']], rfl, by decide⟩
  obtain ⟨herror, -, hsame⟩ := urlForParams_looks_up_wildcards hget
  exact ⟨hget, (herror _ _).2 ⟨['b'], hfirst, rfl⟩, hsame _ _ (by decide)⟩

end Table

end RoutePattern
