import RoutePattern.Proofs.Reloading

/-!
# The order of updates

A table keeps no trace of the order in which its routes were added: what counts is the last text of
each name (`get?_after_additions`). As look-ups determine a table, and a source the pattern that is
read from it, two tables are equal exactly when they bind the same names to the same sources
(`after_eq_iff`). Equality of tables is therefore as fine as the source texts are.
-/

namespace RoutePattern.Table

/-! ## Adding routes one by one -/

def Update.route? : Update → Option (Text × Text)
  | .insert name text | .withRoute name text => some (name, text)
  | _ => none

/-- The routes that steps add, in order. Texts that are refused are left out. -/
def addedTexts (history : List Update) : List (Text × Text) :=
  (history.filterMap Update.route?).filter fun route => (Pattern.parse? route.2).isSome

theorem accepted_addedTexts (history : List Update) : Accepted (addedTexts history) := by
  intro route hroute
  obtain ⟨pattern, hparse⟩ := Option.isSome_iff_exists.1 (List.mem_filter.1 hroute).2
  exact ⟨pattern, Pattern.parse?_eq_some_iff.1 hparse⟩

theorem addedTexts_concat {update : Update} {route : Text × Text}
    (h : update.route? = some route) (history : List Update) :
    addedTexts (history ++ [update]) =
      addedTexts history ++ if (Pattern.parse? route.2).isSome then [route] else [] := by
  unfold addedTexts
  rw [List.filterMap_append, List.filter_append, List.filterMap_cons, h]
  simp only [List.filterMap_nil, List.filter_cons, List.filter_nil]

theorem Update.bind?_of_route? {update : Update} {name text : Text}
    (h : update.route? = some (name, text)) (bound : Binding) :
    update.bind? bound = (Pattern.parse? text).map fun pattern key =>
      if key = name then some pattern else bound key := by
  cases update with
  | insert name' text' | withRoute name' text' =>
      cases h
      rfl
  | _ => cases h

/-- Routes that are added bind each name to the pattern of its last text. -/
theorem get?_after_additions (start : List Update) {history : List Update}
    (h : ∀ update ∈ history, update.route?.isSome) (name : Text) :
    (after (start ++ history)).get? name =
      ((NameMap.lastValue? name (addedTexts history)).bind Pattern.parse?).or
        ((after start).get? name) := by
  induction history using List.reverseRecOn with
  | nil =>
      rw [List.append_nil]
      rfl
  | append_singleton history update ih =>
      have hupdate := h update (List.mem_append_right _ List.mem_cons_self)
      obtain ⟨⟨key, text⟩, hroute⟩ := Option.isSome_iff_exists.1 hupdate
      have hbefore := ih fun u hu => h u (List.mem_append_left _ hu)
      rw [← List.append_assoc, after_concat, Update.get?_run, Update.bind?_of_route? hroute,
        addedTexts_concat hroute]
      cases hparse : Pattern.parse? text with
      | none => simpa [hparse] using hbefore
      | some pattern =>
          rw [Option.isSome_some, if_pos rfl, NameMap.lastValue?_concat]
          show (if name = key then some pattern else (after (start ++ history)).get? name) = _
          by_cases hname : name = key
          · rw [if_pos hname, if_pos hname, Option.bind_some, hparse]
            rfl
          · rw [if_neg hname, if_neg hname, hbefore]

theorem after_additions_congr (start : List Update) {history history' : List Update}
    (h : ∀ update ∈ history, update.route?.isSome) (h' : ∀ update ∈ history', update.route?.isSome)
    (hlast : ∀ name, NameMap.lastValue? name (addedTexts history) =
      NameMap.lastValue? name (addedTexts history')) :
    after (start ++ history) = after (start ++ history') := by
  apply NameMap.ext_get?
  intro name
  rw [get?_after_additions start h, get?_after_additions start h', hlast]

theorem Accepted.ofPairs_congr {pairs pairs' : List (Text × Text)} (h : Accepted pairs)
    (h' : Accepted pairs')
    (hlast : ∀ name, NameMap.lastValue? name pairs = NameMap.lastValue? name pairs') :
    ofPairs pairs = ofPairs pairs' := by
  have hsame : NameMap.ofList (parsed pairs) = NameMap.ofList (parsed pairs') := by
    apply NameMap.ext_get?
    intro name
    rw [h.get?_ofList_parsed, h'.get?_ofList_parsed, NameMap.get?_ofList_eq_lastValue?,
      NameMap.get?_ofList_eq_lastValue?, hlast]
  rw [h.ofPairs_eq, h'.ofPairs_eq, hsame]

/-! ## Equal tables -/

/-- Two tables list the same routes and build the same paths from them. -/
structure AnswersAlike (table table' : Table) : Prop where
  toList : table.toList = table'.toList
  size : table.size = table'.size
  urlFor : ∀ name values, table.urlFor name values = table'.urlFor name values
  urlForParams : ∀ name params, table.urlForParams name params = table'.urlForParams name params

theorem answersAlike_self (table : Table) : AnswersAlike table table :=
  ⟨rfl, rfl, fun _ _ => rfl, fun _ _ => rfl⟩

theorem Rereads.eq_of_sourceOf? {table table' : Table} (h : Rereads table.get?)
    (h' : Rereads table'.get?) (hsource : ∀ name, table.sourceOf? name = table'.sourceOf? name) :
    table = table' := by
  apply NameMap.ext_get?
  intro name
  rw [h.get?_eq, h'.get?_eq, hsource]

/-- Tables are equal when they bind the same names to the same sources. -/
theorem after_eq_iff {history history' : List Update} :
    after history = after history' ↔
      ∀ name, (after history).sourceOf? name = (after history').sourceOf? name := by
  constructor
  · intro heq name
    rw [heq]
  · exact (rereads_after history).eq_of_sourceOf? (rereads_after history')

theorem get?_after_insert {text : Text} {pattern : Pattern} (h : Pattern.parse text = .ok pattern)
    (start : List Update) (name : Text) :
    (after (start ++ [.insert name text])).get? name = some pattern := by
  rw [after_concat, Update.get?_run, Update.bind?, Pattern.parse?_eq_some_iff.2 h]
  exact if_pos rfl

/-- **Only the last text of each name counts.** Steps that add routes, and pairs that fill a table,
give the same table whenever each name has the same last text in both, or none. Any two tables are
equal iff each name has no pattern in both or patterns with the same source, and then they answer
alike. Equality sees the whole source: another spelling of the escapes, or another method, makes
another pattern and another table. -/
theorem after_determined_by_last_texts :
    (∀ start history history' : List Update,
      (∀ update ∈ history, update.route?.isSome) → (∀ update ∈ history', update.route?.isSome) →
      (∀ name, NameMap.lastValue? name (addedTexts history) =
        NameMap.lastValue? name (addedTexts history')) →
      after (start ++ history) = after (start ++ history')) ∧
    (∀ pairs pairs' : List (Text × Text), Accepted pairs → Accepted pairs' →
      (∀ name, NameMap.lastValue? name pairs = NameMap.lastValue? name pairs') →
      ∃ table, ofPairs pairs = .ok table ∧ ofPairs pairs' = .ok table) ∧
    (∀ history history' : List Update,
      (after history = after history' ↔
        ∀ name, (after history).sourceOf? name = (after history').sourceOf? name) ∧
      ((∀ name, (after history).sourceOf? name = (after history').sourceOf? name) →
        AnswersAlike (after history) (after history'))) ∧
    ∀ (text text' : Text) (pattern pattern' : Pattern),
      Pattern.parse text = .ok pattern → Pattern.parse text' = .ok pattern' →
      (pattern = pattern' ↔ text = text') ∧
      ∀ start name, after (start ++ [.insert name text]) = after (start ++ [.insert name text']) ↔
        text = text' := by
  refine ⟨?_, ?_, ?_, ?_⟩
  · intro start history history' h h' hlast
    exact after_additions_congr start h h' hlast
  · intro pairs pairs' h h' hlast
    exact ⟨_, h.ofPairs_eq, (h.ofPairs_congr h' hlast).symm.trans h.ofPairs_eq⟩
  · intro history history'
    refine ⟨after_eq_iff, ?_⟩
    intro hsource
    rw [after_eq_iff.2 hsource]
    exact answersAlike_self _
  · intro text text' pattern pattern' h h'
    refine ⟨Pattern.eq_iff_of_parse h h', ?_⟩
    intro start name
    constructor
    · intro heq
      have hget := get?_after_insert h start name
      rw [heq, get?_after_insert h' start name] at hget
      exact ((Pattern.eq_iff_of_parse h' h).1 (Option.some.inj hget)).symm
    · rintro rfl
      rfl

/-- Two routes, the first of which is replaced. -/
def replacing : List Update :=
  [.insert ['a'] "/x".toList, .withRoute ['b'] "GET /y".toList, .insert ['a'] "/%7Bz%7D".toList]

/-- The same routes the other way round, another text that is replaced, and one that is refused. -/
def reordered : List Update :=
  [.insert ['b'] "/{q}".toList, .withRoute ['a'] "/%7Bz%7D".toList,
    .withRoute ['b'] "GET /y".toList, .insert ['a'] "/{$}/x".toList]

theorem after_determined_by_last_texts_reordered :
    after replacing = after reordered ∧
    (∃ table, ofPairs (addedTexts replacing) = .ok table ∧
      ofPairs (addedTexts reordered) = .ok table) ∧
    AnswersAlike (after replacing)
      (after [.load "[routes]\nb = 'GET /y'\na = '/%7Bz%7D'".toList]) ∧
    -- Nothing but the spelling of an escape, and nothing but the method.
    after [.insert ['b'] "GET /%2F".toList] ≠ after [.insert ['b'] "GET /%2f".toList] ∧
    after [.insert ['b'] "GET /%2F".toList] ≠ after [.insert ['b'] "PUT /%2F".toList] := by
  obtain ⟨hsteps, hpairs, hequal, hspelling⟩ := after_determined_by_last_texts
  have hlast : ∀ name, NameMap.lastValue? name (addedTexts replacing) =
      NameMap.lastValue? name (addedTexts reordered) := by
    have hsame : NameMap.ofList (addedTexts replacing) = NameMap.ofList (addedTexts reordered) := by
      decide +kernel
    intro name
    rw [← NameMap.get?_ofList_eq_lastValue?, ← NameMap.get?_ofList_eq_lastValue?, hsame]
  refine ⟨hsteps [] _ _ (by decide) (by decide) hlast,
    hpairs _ _ (accepted_addedTexts _) (accepted_addedTexts _) hlast, ?_, ?_, ?_⟩
  · apply (hequal _ _).2
    apply (hequal _ _).1.1
    decide +kernel
  · intro heq
    exact absurd (((hspelling _ _ _ _ rfl rfl).2 [] ['b']).1 heq) (by decide)
  · intro heq
    exact absurd (((hspelling _ _ _ _ rfl rfl).2 [] ['b']).1 heq) (by decide)

end RoutePattern.Table
