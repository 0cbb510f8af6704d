import Mathlib.Data.List.Induction
import RoutePattern.Proofs.Loading

/-!
# Tables over their histories

A table that is filled step by step is a plain map from names to patterns (`after_shows`). The map
is described on its own: a naive program `Update.bind?` says for each step what names are bound to
after it, or that the step fails, and knows nothing of sorted entries. One step of a table is one
step of the map (`Update.bind?_get?`), so after any history a table answers look-ups as the map does
(`get?_after`), and all other answers of a table follow from the look-ups (`shows_of_get?`).
-/

namespace RoutePattern.Table

/-! ## Steps -/

inductive Update where
  /-- Adds a route, and asks for the one that it replaces. -/
  | insert (name text : Text)
  | withRoute (name text : Text)
  /-- Takes routes from pairs of names and texts in place of all there are. -/
  | collect (pairs : List (Text × Text))
  /-- Takes the routes that a document lists in place of all there are. -/
  | load (document : Text)
  /-- Takes the routes that a file lists, given what reading the file gave. -/
  | loadFile (path : Text) (file : Except FileFault Text)

inductive Refusal where
  | pattern (source : PatternError)
  | table (source : TableError)

/-- What a step gives, the pattern that it replaces and the table after it, if it succeeds. -/
def Update.apply (table : Table) : Update → Except Refusal (Option Pattern × Table)
  | .insert name text => (Pattern.parse text).mapError .pattern |>.map (table.swap name)
  | .withRoute name text =>
    (Pattern.parse text).mapError .pattern |>.map fun pattern => (none, table.insert name pattern)
  | .collect pairs => (ofPairs pairs).mapError .pattern |>.map (none, ·)
  | .load document => (ofToml document).mapError .table |>.map (none, ·)
  | .loadFile path file => (ofFile path file).mapError .table |>.map (none, ·)

/-- The table after a step. A step that fails leaves the table as it is. -/
def Update.run (table : Table) (update : Update) : Table :=
  match update.apply table with
  | .ok (_, next) => next
  | .error _ => table

def after (history : List Update) : Table :=
  history.foldl Update.run NameMap.empty

theorem after_concat (history : List Update) (update : Update) :
    after (history ++ [update]) = update.run (after history) := by
  unfold after
  rw [List.foldl_append]
  rfl

/-! ## The map of a history -/

/-- What names are bound to. -/
abbrev Binding := Text → Option Pattern

instance {pairs : List (Text × Text)} : Decidable (Accepted pairs) :=
  decidable_of_iff (∀ pair ∈ pairs, (Pattern.parse? pair.2).isSome) <| by
    simp only [Accepted, Option.isSome_iff_exists, Pattern.parse?_eq_some_iff]

/-- The patterns of texts by name, if each of the texts is a pattern. -/
def bindTexts? (texts : NameMap Text) : Option Binding :=
  if Accepted texts.toList then some fun name => (texts.get? name).bind Pattern.parse? else none

/-- What names are bound to after a step, given what they are bound to before it, if the step
succeeds. The last of several pairs of one name counts. -/
def Update.bind? (bound : Binding) : Update → Option Binding
  | .insert name text | .withRoute name text =>
    (Pattern.parse? text).map fun pattern key => if key = name then some pattern else bound key
  | .collect pairs =>
    if Accepted pairs then
      some fun name => (NameMap.lastValue? name pairs).bind Pattern.parse?
    else none
  | .load document => (Toml.routes? document).bind bindTexts?
  | .loadFile _ file => (file.toOption.bind Toml.routes?).bind bindTexts?

/-- What names are bound to after the steps of a history that succeed, in order. -/
def boundAfter (history : List Update) : Binding :=
  history.foldl (fun bound update => (update.bind? bound).getD bound) fun _ => none

theorem boundAfter_concat (history : List Update) (update : Update) :
    boundAfter (history ++ [update]) =
      (update.bind? (boundAfter history)).getD (boundAfter history) := by
  unfold boundAfter
  rw [List.foldl_append]
  rfl

/-! ## One step -/

theorem bindTexts?_eq (texts : NameMap Text) :
    bindTexts? texts = (ofTexts texts).toOption.map NameMap.get? := by
  unfold bindTexts?
  rcases accepted_or_firstRefused texts.toList with haccepted | ⟨pair, source, hfirst⟩
  · rw [if_pos haccepted, haccepted.ofTexts_eq]
    show _ = some (NameMap.get? _)
    congr 1
    funext name
    rw [haccepted.get?_ofList_parsed, NameMap.ofList_toList]
  · rw [if_neg hfirst.not_accepted, hfirst.ofTexts_eq]
    rfl

theorem bind_bindTexts?_eq (document : Text) :
    (Toml.routes? document).bind bindTexts? = (ofToml document).toOption.map NameMap.get? := by
  unfold ofToml
  cases Toml.routes? document with
  | none => rfl
  | some texts => exact bindTexts?_eq texts

theorem map_parse?_eq (table : Table) (name text : Text) :
    ((Pattern.parse? text).map fun pattern key =>
      if key = name then some pattern else table.get? key) =
      (Pattern.parse text).toOption.map fun pattern => (table.insert name pattern).get? := by
  unfold Pattern.parse?
  congr 1
  funext pattern key
  rw [NameMap.get?_insert]

theorem toOption_mapError_map {α β ε δ : Type} (outcome : Except ε α) (f : ε → δ) (g : α → β) :
    ((outcome.mapError f).map g).toOption = outcome.toOption.map g := by
  cases outcome <;> rfl

theorem mapError_eq_error_iff {α ε δ : Type} {outcome : Except ε α} {f : ε → δ} {error : δ} :
    outcome.mapError f = .error error ↔ ∃ fault, outcome = .error fault ∧ error = f fault := by
  cases outcome with
  | ok value => exact iff_of_false nofun (by simp)
  | error source => simp [Except.mapError, eq_comm]

theorem exists_of_mapError_map_eq_ok {α β ε δ : Type} {outcome : Except ε α} {f : ε → δ}
    {g : α → β} {reply : β} (h : (outcome.mapError f).map g = .ok reply) :
    ∃ value, g value = reply := by
  cases outcome with
  | ok value => exact ⟨value, Except.ok.inj h⟩
  | error source => cases h

/-- One step of a table is one step of its map. -/
theorem Update.bind?_get? (update : Update) (table : Table) :
    update.bind? table.get? = (update.apply table).toOption.map fun reply => reply.2.get? := by
  cases update with
  | insert name text =>
      rw [bind?, apply, toOption_mapError_map, Option.map_map]
      exact map_parse?_eq table name text
  | withRoute name text =>
      rw [bind?, apply, toOption_mapError_map, Option.map_map]
      exact map_parse?_eq table name text
  | collect pairs =>
      rw [bind?, apply, toOption_mapError_map, Option.map_map]
      rcases accepted_or_firstRefused pairs with haccepted | ⟨pair, source, hfirst⟩
      · rw [if_pos haccepted, haccepted.ofPairs_eq]
        show _ = some (NameMap.get? _)
        congr 1
        funext name
        rw [haccepted.get?_ofList_parsed, NameMap.get?_ofList_eq_lastValue?]
      · rw [if_neg hfirst.not_accepted, hfirst.ofPairs_eq]
        rfl
  | load document =>
      rw [bind?, apply, toOption_mapError_map, Option.map_map]
      exact bind_bindTexts?_eq document
  | loadFile path file =>
      rw [bind?, apply, toOption_mapError_map, Option.map_map]
      cases file with
      | error fault => rfl
      | ok document => exact bind_bindTexts?_eq document

/-- What the map holds where a step puts a pattern, if the step asks for that. -/
def Update.replaced? (bound : Binding) : Update → Option Pattern
  | .insert name _ => bound name
  | _ => none

theorem Update.replaced?_of_apply {update : Update} {table : Table}
    {reply : Option Pattern × Table} (h : update.apply table = .ok reply) :
    reply.1 = update.replaced? table.get? := by
  cases update with
  | _ =>
      obtain ⟨value, rfl⟩ := exists_of_mapError_map_eq_ok h
      rfl

/-- A step succeeds in a table and in its map, or fails in both. -/
theorem Update.apply_cases (update : Update) (table : Table) :
    (update.bind? table.get? = some (update.run table).get? ∧
      update.apply table = .ok (update.replaced? table.get?, update.run table)) ∨
    (update.bind? table.get? = none ∧ (∃ refusal, update.apply table = .error refusal) ∧
      update.run table = table) := by
  have hbind := update.bind?_get? table
  unfold run
  cases happly : update.apply table with
  | ok reply =>
      rw [happly] at hbind
      exact Or.inl ⟨hbind, by rw [← replaced?_of_apply happly]⟩
  | error refusal =>
      rw [happly] at hbind
      exact Or.inr ⟨hbind, ⟨refusal, rfl⟩, rfl⟩

theorem Update.get?_run (update : Update) (table : Table) :
    (update.run table).get? = (update.bind? table.get?).getD table.get? := by
  rcases update.apply_cases table with ⟨hbind, -⟩ | ⟨hbind, -, hrun⟩
  · rw [hbind]
    rfl
  · rw [hbind, hrun]
    rfl

/-! ## All steps -/

/-- After any history a table answers look-ups as the map of the history does. -/
theorem get?_after (history : List Update) : (after history).get? = boundAfter history := by
  induction history using List.reverseRecOn with
  | nil => rfl
  | append_singleton history update ih =>
      rw [after_concat, boundAfter_concat, Update.get?_run, ih]

/-! ## Answers -/

theorem urlFor_of_get?_eq_none {table : Table} {name : Text} (h : table.get? name = none)
    (values : List Text) : table.urlFor name values = .error (.unknownRoute name) := by
  unfold urlFor find
  rw [h]
  rfl

theorem urlFor_of_get?_eq_some {table : Table} {name : Text} {pattern : Pattern}
    (h : table.get? name = some pattern) (values : List Text) :
    table.urlFor name values = (pattern.build values).mapError .build := by
  unfold urlFor find
  rw [h]
  rfl

theorem urlForParams_of_get?_eq_none {table : Table} {name : Text} (h : table.get? name = none)
    (params : List (Text × Text)) : table.urlForParams name params = .error (.unknownRoute name) := by
  unfold urlForParams find
  rw [h]
  rfl

theorem urlForParams_of_get?_eq_some {table : Table} {name : Text} {pattern : Pattern}
    (h : table.get? name = some pattern) (params : List (Text × Text)) :
    table.urlForParams name params =
      (pattern.buildNamed (NameMap.ofList params)).mapError .build := by
  unfold urlForParams find
  rw [h]
  rfl

/-- A table gives the answers of a map: its names ascend in the order of their UTF-8 bytes, so that
each is listed once. -/
structure Shows (table : Table) (bound : Binding) : Prop where
  get? : ∀ name, table.get? name = bound name
  ascending : (table.names.map Text.utf8).Pairwise (· < ·)
  mem_names_iff : ∀ {name}, name ∈ table.names ↔ bound name ≠ none
  map_fst_toList : table.toList.map Prod.fst = table.names
  mem_toList_iff : ∀ {name pattern}, (name, pattern) ∈ table.toList ↔ bound name = some pattern
  size : table.size = table.names.length
  isEmpty_iff : table.isEmpty = true ↔ table.size = 0
  unknown_iff : ∀ {name} values,
    table.urlFor name values = .error (.unknownRoute name) ↔ bound name = none
  url : ∀ {name pattern} values, bound name = some pattern →
    table.urlFor name values = (pattern.build values).mapError .build

theorem shows_of_get? {table : Table} {bound : Binding} (h : table.get? = bound) :
    Shows table bound := by
  subst h
  refine ⟨fun _ => rfl, table.ascending_names, ?_, rfl, NameMap.mem_toList_iff, ?_, ?_, ?_, ?_⟩
  · intro name
    rw [← NameMap.get?_isSome_iff_mem_names, Option.isSome_iff_ne_none]
  · exact (List.length_map Prod.fst).symm
  · exact List.isEmpty_iff_length_eq_zero
  · intro name values
    constructor
    · intro herror
      cases hget : table.get? name with
      | none => rfl
      | some pattern =>
          rw [urlFor_of_get?_eq_some hget, mapError_eq_error_iff] at herror
          obtain ⟨source, -, hsource⟩ := herror
          cases hsource
    · intro hget
      exact urlFor_of_get?_eq_none hget values
  · intro name pattern values hget
    exact urlFor_of_get?_eq_some hget values

/-- **A table is a finite map.** After any history, failing steps included, a table gives the
answers of the map that the steps which succeed build in order (`boundAfter`). A further step
succeeds in the table iff it does in the map, and then gives the pattern that it replaces, if it
asks for it; a step that fails leaves the table, and with it all answers, as it is. -/
theorem after_shows (history : List Update) :
    Shows (after history) (boundAfter history) ∧
    ∀ update : Update,
      ((update.bind? (boundAfter history)).isSome ∧ update.apply (after history) =
        .ok (update.replaced? (boundAfter history), after (history ++ [update]))) ∨
      (update.bind? (boundAfter history) = none ∧
        (∃ refusal, update.apply (after history) = .error refusal) ∧
        after (history ++ [update]) = after history) := by
  have hget := get?_after history
  refine ⟨shows_of_get? hget, ?_⟩
  intro update
  rw [after_concat, ← hget]
  rcases update.apply_cases (after history) with ⟨hbind, happly⟩ | hfails
  · exact Or.inl ⟨Option.isSome_of_mem hbind, happly⟩
  · exact Or.inr hfails

/-- Of two pairs of one name the later one counts, a refused text changes nothing, and an uppercase
name stands before a lowercase one. -/
example : (after [.collect [(['b'], "/1".toList), (['a'], "/2".toList), (['b'], "/3".toList)],
    .insert ['a'] "/{$}/x".toList, .withRoute ['Z'] "/4".toList]).toList.map
      (fun (name, pattern) => (name, pattern.source)) =
    [(['Z'], "/4".toList), (['a'], "/2".toList), (['b'], "/3".toList)] := by decide

end RoutePattern.Table
