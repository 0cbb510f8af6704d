import RoutePattern.Proofs.Grammar
import RoutePattern.Proofs.TableHistory

/-!
# Reloading a table

What a table lists is enough to fill it again (`after_reloads`). Every way into a table reads a
text, so whatever happened to a table, each of its patterns is what its own source reads as
(`rereads_after`). The sources by name therefore determine the table (`Rereads.reload`), in whatever
order they come, because a map keeps no order but that of its names.
-/

namespace RoutePattern.Table

/-! ## Patterns and their sources -/

/-- Every pattern is what its own source reads as. -/
def Rereads (bound : Binding) : Prop :=
  ∀ name pattern, bound name = some pattern → Pattern.parse pattern.source = .ok pattern

def sourceOf? (table : Table) (name : Text) : Option Text :=
  (table.get? name).map Pattern.source

/-- The names with the source texts of their patterns, in the order of the names. -/
def sourceTexts (table : Table) : List (Text × Text) :=
  table.toList.map fun route => (route.1, route.2.source)

theorem mem_sourceTexts_iff {table : Table} {name text : Text} :
    (name, text) ∈ table.sourceTexts ↔ table.sourceOf? name = some text := by
  unfold sourceTexts sourceOf?
  rw [List.mem_map, Option.map_eq_some_iff]
  constructor
  · rintro ⟨⟨name', pattern⟩, hmem, heq⟩
    cases heq
    exact ⟨pattern, NameMap.mem_toList_iff.1 hmem, rfl⟩
  · rintro ⟨pattern, hget, rfl⟩
    exact ⟨(name, pattern), NameMap.mem_toList_iff.2 hget, rfl⟩

theorem map_fst_sourceTexts (table : Table) : table.sourceTexts.map Prod.fst = table.names :=
  List.map_map

/-- A source and its pattern stand for each other. -/
theorem Rereads.get?_eq {table : Table} (h : Rereads table.get?) (name : Text) :
    table.get? name = (table.sourceOf? name).bind Pattern.parse? := by
  unfold sourceOf?
  cases hget : table.get? name with
  | none => rfl
  | some pattern => exact (Pattern.parse?_eq_some_iff.2 (h name pattern hget)).symm

/-! ## Every step reads -/

theorem parse_source_of_parse? {text : Text} {pattern : Pattern}
    (h : Pattern.parse? text = some pattern) : Pattern.parse pattern.source = .ok pattern := by
  have hparse := Pattern.parse?_eq_some_iff.1 h
  rw [Pattern.source_of_parse hparse, hparse]

theorem rereads_bind_parse? (text? : Text → Option Text) :
    Rereads fun name => (text? name).bind Pattern.parse? := by
  intro name pattern hbound
  obtain ⟨text, -, hparse⟩ := Option.bind_eq_some_iff.1 hbound
  exact parse_source_of_parse? hparse

theorem rereads_of_bindTexts? {texts : NameMap Text} {bound : Binding}
    (h : bindTexts? texts = some bound) : Rereads bound := by
  unfold bindTexts? at h
  split at h
  · cases h
    exact rereads_bind_parse? texts.get?
  · cases h

theorem Rereads.update {bound : Binding} (h : Rereads bound) {text name : Text}
    {pattern : Pattern} (hparse : Pattern.parse? text = some pattern) :
    Rereads fun key => if key = name then some pattern else bound key := by
  intro key found hfound
  dsimp only at hfound
  split at hfound
  · cases hfound
    exact parse_source_of_parse? hparse
  · exact h key found hfound

/-- One step puts only patterns into a table that it reads. -/
theorem Update.rereads_of_bind? {update : Update} {bound next : Binding} (h : Rereads bound)
    (hbind : update.bind? bound = some next) : Rereads next := by
  cases update with
  | insert name text | withRoute name text =>
      obtain ⟨pattern, hparse, rfl⟩ := Option.map_eq_some_iff.1 hbind
      exact h.update hparse
  | collect pairs =>
      rw [bind?] at hbind
      split at hbind
      · cases hbind
        exact rereads_bind_parse? fun name => NameMap.lastValue? name pairs
      · cases hbind
  | load document =>
      obtain ⟨texts, -, htexts⟩ := Option.bind_eq_some_iff.1 hbind
      exact rereads_of_bindTexts? htexts
  | loadFile path file =>
      obtain ⟨texts, -, htexts⟩ := Option.bind_eq_some_iff.1 hbind
      exact rereads_of_bindTexts? htexts

theorem Rereads.run {table : Table} (h : Rereads table.get?) (update : Update) :
    Rereads (update.run table).get? := by
  rw [Update.get?_run]
  cases hbind : update.bind? table.get? with
  | none => exact h
  | some next => exact Update.rereads_of_bind? h hbind

/-- Whatever happened to a table, each of its patterns is what its own source reads as. -/
theorem rereads_after (history : List Update) : Rereads (after history).get? := by
  induction history using List.reverseRecOn with
  | nil => exact nofun
  | append_singleton history update ih =>
      rw [after_concat]
      exact ih.run update

theorem after_loadFile {file : Text} {content : Except FileFault Text} {table : Table}
    (h : ofFile file content = .ok table) : after [.loadFile file content] = table := by
  show Update.run NameMap.empty (.loadFile file content) = table
  rw [Update.run, Update.apply, h]
  rfl

/-- A table from a file reads like any other. -/
theorem rereads_of_ofFile {file : Text} {content : Except FileFault Text} {table : Table}
    (h : ofFile file content = .ok table) : Rereads table.get? := by
  rw [← after_loadFile h]
  exact rereads_after _

/-! ## Filling a table from its sources -/

theorem accepted_of_perm {table : Table} (h : Rereads table.get?) {pairs : List (Text × Text)}
    (hperm : pairs.Perm table.sourceTexts) : Accepted pairs := by
  rintro ⟨name, text⟩ hpair
  have hsource : table.sourceOf? name = some text :=
    mem_sourceTexts_iff.1 (hperm.mem_iff.1 hpair)
  obtain ⟨pattern, hget, rfl⟩ := Option.map_eq_some_iff.1 hsource
  exact ⟨pattern, h name pattern hget⟩

theorem get?_ofList_of_perm {table : Table} {pairs : List (Text × Text)}
    (hperm : pairs.Perm table.sourceTexts) (name : Text) :
    (NameMap.ofList pairs).get? name = table.sourceOf? name := by
  have hnames : (pairs.map Prod.fst).Nodup := by
    rw [(hperm.map Prod.fst).nodup_iff, map_fst_sourceTexts]
    exact table.nodup_names
  apply Option.ext
  intro text
  rw [NameMap.get?_ofList_eq_some_iff hnames, hperm.mem_iff, mem_sourceTexts_iff]

/-- The patterns of a table's sources fill the table again, in any order. -/
theorem Rereads.reload {table : Table} (h : Rereads table.get?) {pairs : List (Text × Text)}
    (hperm : pairs.Perm table.sourceTexts) : NameMap.ofList (parsed pairs) = table := by
  apply NameMap.ext_get?
  intro name
  rw [(accepted_of_perm h hperm).get?_ofList_parsed, get?_ofList_of_perm hperm, h.get?_eq]

theorem Rereads.ofPairs_eq {table : Table} (h : Rereads table.get?) {pairs : List (Text × Text)}
    (hperm : pairs.Perm table.sourceTexts) : ofPairs pairs = .ok table := by
  rw [(accepted_of_perm h hperm).ofPairs_eq, h.reload hperm]

theorem Rereads.ofTexts_eq {table : Table} (h : Rereads table.get?) {texts : NameMap Text}
    (htexts : texts.toList = table.sourceTexts) : ofTexts texts = .ok table := by
  have hperm : texts.toList.Perm table.sourceTexts := List.Perm.of_eq htexts
  rw [(accepted_of_perm h hperm).ofTexts_eq, h.reload hperm]

/-- **A table is filled again from what it lists.** After any history each pattern in a table is
what its own source reads as, with all its parts, and the names with these sources give the table
back: from any document that lists them, and from pairs in any order. -/
theorem after_reloads (history : List Update) :
    (∀ route ∈ (after history).toList, Pattern.parse route.2.source = .ok route.2) ∧
    (∀ document texts, Toml.routes? document = some texts →
      texts.toList = (after history).sourceTexts → ofToml document = .ok (after history)) ∧
    ∀ pairs : List (Text × Text), pairs.Perm (after history).sourceTexts →
      ofPairs pairs = .ok (after history) := by
  have hrereads := rereads_after history
  refine ⟨?_, ?_, ?_⟩
  · intro route hroute
    exact hrereads route.1 route.2 (NameMap.mem_toList_iff.1 hroute)
  · intro document texts hroutes htexts
    rw [ofToml_eq_ofTexts hroutes]
    exact hrereads.ofTexts_eq htexts
  · intro pairs hperm
    exact hrereads.ofPairs_eq hperm

/-- A table that was loaded, had a route replaced, refused one, and got one with escapes. -/
def patchedHistory : List Update :=
  [.load "routes.b = 'GET h/{x}'\nroutes.a = '/a b'".toList, .insert ['b'] "/{y...}".toList,
    .withRoute ['c'] "/{$}/x".toList, .withRoute "é\"".toList "PUT /%61//".toList]

/-- The routes of the table as a document, out of order and with a key that has to be quoted. -/
def patchedDocument : Text :=
  "[routes]\n\"é\\\"\" = 'PUT /%61//'\nb = '/{y...}'\na = '/a b'".toList

theorem after_reloads_patched :
    (after patchedHistory).size = 3 ∧
    ofToml patchedDocument = .ok (after patchedHistory) ∧
    ofPairs (after patchedHistory).sourceTexts.reverse = .ok (after patchedHistory) := by
  obtain ⟨-, hdocument, hpairs⟩ := after_reloads patchedHistory
  have hroutes : Toml.routes? patchedDocument =
      some (.ofList (after patchedHistory).sourceTexts) := by decide +kernel
  exact ⟨by decide +kernel, hdocument _ _ hroutes (by decide +kernel),
    hpairs _ (List.reverse_perm _)⟩

end RoutePattern.Table
