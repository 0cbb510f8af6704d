import RoutePattern.Proofs.Placement

/-!
# Values by name and values in order

Looking a value up by each wildcard's name is the rule of placing, applied to the values of the
names in the order of the wildcards (`exists_placed_of_lookups`): no value is left for a trailing
slash, so that both leave it empty. Lists of values that give equal names equal values come from a
map, and the two ways of building agree on them (`buildNamed_eq_build`).
-/

namespace RoutePattern

namespace Pattern

/-! ## The map of a list of values -/

/-- Equal names have equal values. -/
def Consistent (names values : List Text) : Prop :=
  ∀ (i j : Nat) (name : Text), names[i]? = some name → names[j]? = some name →
    values[i]? = values[j]?

theorem consistent_map (names : List Text) (valueOf : Text → Text) :
    Consistent names (names.map valueOf) := by
  intro i j name hi hj
  rw [List.getElem?_map, List.getElem?_map, hi, hj]

/-- The order of the pairs does not matter, as no two of them disagree. -/
theorem Consistent.get?_ofList_of_perm {names values : List Text} (h : Consistent names values)
    (hlength : names.length = values.length) {pairs : List (Text × Text)}
    (hperm : pairs.Perm (names.zip values)) :
    names.map (NameMap.ofList pairs).get? = values.map some := by
  apply List.ext_getElem?
  intro i
  rw [List.getElem?_map, List.getElem?_map]
  cases hname : names[i]? with
  | none =>
      have hbound := List.getElem?_eq_none_iff.1 hname
      rw [hlength] at hbound
      rw [List.getElem?_eq_none hbound]
      rfl
  | some name =>
      have hbound : i < values.length := hlength ▸ (List.getElem?_eq_some_iff.1 hname).1
      have hvalue : values[i]? = some values[i] := List.getElem?_eq_getElem hbound
      rw [hvalue, Option.map_some, Option.map_some, NameMap.get?_ofList]
      refine congrArg some (NameMap.lookup_eq_some_of_forall ?_ ?_)
      · refine ⟨(name, values[i]), ?_, rfl⟩
        rw [List.mem_reverse, hperm.mem_iff]
        exact List.mem_of_getElem? (List.getElem?_zip_eq_some.2 ⟨hname, hvalue⟩)
      · -- Another pair of this name stands for another wildcard of it, which has the same value.
        rintro ⟨other, value⟩ hmem rfl
        rw [List.mem_reverse, hperm.mem_iff] at hmem
        obtain ⟨j, hj⟩ := List.getElem?_of_mem hmem
        obtain ⟨hother, hvalue'⟩ := List.getElem?_zip_eq_some.1 hj
        have hsame := h i j other hname hother
        rw [hvalue, hvalue'] at hsame
        exact (Option.some.inj hsame).symm

theorem Consistent.get?_ofList_zip {names values : List Text} (h : Consistent names values)
    (hlength : names.length = values.length) :
    names.map (NameMap.ofList (names.zip values)).get? = values.map some :=
  h.get?_ofList_of_perm hlength (List.Perm.refl _)

/-! ## Both ways of placing -/

theorem mapM_placeNamed_cons {params : NameMap Text} {segment : Segment}
    {segments : List Segment} {text : Text} {texts : List Text}
    (hsegment : placeNamed params segment = .ok text)
    (hsegments : segments.mapM (placeNamed params) = .ok texts) :
    (segment :: segments).mapM (placeNamed params) = .ok (text :: texts) := by
  rw [List.mapM_cons, hsegment, hsegments]
  rfl

theorem placeNamed_of_wildcard {params : NameMap Text} {segment : Segment} {name value : Text}
    (hname : segment.name? = some name) (hvalue : params.get? name = some value) :
    placeNamed params segment = .ok value := by
  cases segment with
  | single n =>
      cases hname
      rw [placeNamed, hvalue]
      rfl
  | rest n =>
      cases hname
      rw [placeNamed, hvalue]
      rfl
  | literal text => cases hname
  | endAnchor => cases hname

/-- The values of the names, in the order of the wildcards, are placed as they are looked up. -/
theorem exists_placed_of_lookups {params : NameMap Text} {segments : List Segment}
    {values : List Text}
    (h : (segments.filterMap Segment.name?).map params.get? = values.map some) :
    ∃ texts, Placed segments values texts ∧ segments.mapM (placeNamed params) = .ok texts := by
  induction segments generalizing values with
  | nil =>
      have hnil : values = [] := List.map_eq_nil_iff.1 h.symm
      exact ⟨[], hnil ▸ .nil, rfl⟩
  | cons segment segments ih =>
      rw [List.filterMap_cons] at h
      cases hname : segment.name? with
      | some name =>
          rw [hname] at h
          cases values with
          | nil => cases h
          | cons value values =>
              obtain ⟨hvalue, hlater⟩ := List.cons.inj h
              obtain ⟨texts, hplaced, hmap⟩ := ih hlater
              have hwildcard : segment.isWildcard = true := by
                rw [← Segment.isSome_name?, hname]
                rfl
              exact ⟨value :: texts, .wildcard hwildcard value hplaced,
                mapM_placeNamed_cons (placeNamed_of_wildcard hname hvalue) hmap⟩
      | none =>
          rw [hname] at h
          obtain ⟨texts, hplaced, hmap⟩ := ih h
          cases segment with
          | single n => cases hname
          | rest n => cases hname
          | endAnchor => exact ⟨[] :: texts, .endAnchor hplaced, mapM_placeNamed_cons rfl hmap⟩
          | literal text =>
              refine ⟨text :: texts, ?_, mapM_placeNamed_cons rfl hmap⟩
              by_cases hslot : text = [] ∧ segments = []
              · -- The slot is empty: behind the last wildcard no value is left.
                obtain ⟨rfl, rfl⟩ := hslot
                cases hplaced
                exact .emptySlot
              · exact .literal hslot hplaced

theorem build_eq_buildNamed_of_lookups {pattern : Pattern} {params : NameMap Text}
    {values : List Text} (h : pattern.wildcards.map params.get? = values.map some) :
    ∃ url, pattern.build values = .ok url ∧ pattern.buildNamed params = .ok url := by
  obtain ⟨texts, hplaced, hmap⟩ := exists_placed_of_lookups h
  refine ⟨pattern.assemble texts, hplaced.build_eq, ?_⟩
  rw [buildNamed, hmap]

theorem exists_values_of_isSome {params : NameMap Text} {names : List Text}
    (h : ∀ name ∈ names, (params.get? name).isSome = true) :
    ∃ values : List Text, names.map params.get? = values.map some := by
  induction names with
  | nil => exact ⟨[], rfl⟩
  | cons name names ih =>
      obtain ⟨value, hvalue⟩ := Option.isSome_iff_exists.1 (h name List.mem_cons_self)
      obtain ⟨values, hvalues⟩ := ih fun n hn => h n (List.mem_cons_of_mem _ hn)
      exact ⟨value :: values, by rw [List.map_cons, List.map_cons, hvalue, hvalues]⟩

/-- **Values by name and in order make the same path.** A map with a value for every wildcard's name
builds what these values build in the order of the wildcards. Conversely, values for the wildcards
that agree on equal names build what the map from the names to them builds. -/
theorem buildNamed_eq_build (pattern : Pattern) :
    (∀ params : NameMap Text,
      (∀ name ∈ pattern.wildcards, (params.get? name).isSome = true) →
      ∃ (values : List Text) (url : Text),
        pattern.wildcards.map params.get? = values.map some ∧
        pattern.build values = .ok url ∧ pattern.buildNamed params = .ok url) ∧
    (∀ values : List Text, values.length = pattern.arity.required →
      Consistent pattern.wildcards values →
      ∃ url, pattern.build values = .ok url ∧
        pattern.buildNamed (NameMap.ofList (pattern.wildcards.zip values)) = .ok url) := by
  constructor
  · intro params hparams
    obtain ⟨values, hvalues⟩ := exists_values_of_isSome hparams
    obtain ⟨url, hbuild, hnamed⟩ := build_eq_buildNamed_of_lookups hvalues
    exact ⟨values, url, hvalues, hbuild, hnamed⟩
  · intro values hlength hconsistent
    have hcount : pattern.wildcards.length = values.length := by
      rw [length_wildcards, hlength]
    exact build_eq_buildNamed_of_lookups (hconsistent.get?_ofList_zip hcount)

/-- A name that stands twice, an empty piece, and a trailing slash. -/
def repeated : Pattern where
  source := "PUT h/{a}//{b}/{a}/".toList
  method := some "PUT".toList
  host := some ['h']
  segments := [.single ['a'], .literal [], .single ['b'], .single ['a'], .literal []]

theorem buildNamed_eq_build_repeated :
    parse repeated.source = .ok repeated ∧
    (∃ (values : List Text) (url : Text),
      repeated.wildcards.map (NameMap.ofList [(['b'], ['2']), (['z'], []), (['a'], ['1'])]).get? =
        values.map some ∧
      repeated.build values = .ok url ∧
      repeated.buildNamed (NameMap.ofList [(['b'], ['2']), (['z'], []), (['a'], ['1'])]) =
        .ok url) ∧
    ∃ url, repeated.build [['1'], ['2'], ['1']] = .ok url ∧
      repeated.buildNamed (NameMap.ofList (repeated.wildcards.zip [['1'], ['2'], ['1']])) =
        .ok url := by
  have hconsistent : Consistent repeated.wildcards [['1'], ['2'], ['1']] :=
    consistent_map repeated.wildcards fun name => if name = ['a'] then ['1'] else ['2']
  refine ⟨rfl, ?_, ?_⟩
  · exact (buildNamed_eq_build repeated).1 _ (by decide)
  · exact (buildNamed_eq_build repeated).2 _ rfl hconsistent

end Pattern

end RoutePattern
