import RoutePattern.Proofs.Bindings
import RoutePattern.Proofs.DistinctNames
import RoutePattern.Table

/-!
# Loading a table

A document is loaded as a whole or not at all (`ofToml_loads_whole`). Texts are read in the order of
their names up to the first that is no pattern; as the names ascend, that one has the least name of
all that are none (`FirstRefused.leastRefused`). What is loaded depends only on which entries the
table of routes has: a map of texts lists the members of the table, in no order
(`Toml.routes?_eq_some_iff`), because no name is written twice.
-/

namespace RoutePattern

/-! ## The routes of a document -/

namespace Toml

def Node.entries? : Node → Option Entries
  | .table _ entries => some entries
  | .closed entries => some entries
  | .moment content => some [(momentName, .text content)]
  | _ => none

/-- The entries of the table of routes. A document without the table has none. -/
def routeEntries? (t : Text) : Option Entries := do
  let entries ← Document.ofText? t
  match entries.get? routesName with
  | none => some []
  | some node => node.entries?

/-- The entries of a table all are texts, and a map binds the texts to their names. -/
structure Entries.Lists (entries : Entries) (texts : NameMap Text) : Prop where
  all_texts : ∀ entry ∈ entries, ∃ content, entry.2 = .text content
  get?_eq_some_iff : ∀ {name content},
    texts.get? name = some content ↔ (name, .text content) ∈ entries

theorem Node.Distinct.nodup_names {node : Node} {entries : Entries} (h : node.Distinct)
    (hentries : node.entries? = some entries) : (entries.map Prod.fst).Nodup := by
  cases h with
  | moment content =>
      cases hentries
      exact List.pairwise_singleton _ _
  | closed hnames =>
      cases hentries
      exact hnames
  | table hnames =>
      cases hentries
      exact hnames
  | _ => cases hentries

theorem nodup_names_of_routeEntries? {t : Text} {entries : Entries}
    (h : routeEntries? t = some entries) : (entries.map Prod.fst).Nodup := by
  obtain ⟨outer, houter, hinner⟩ := Option.bind_eq_some_iff.1 h
  have hdistinct := Document.distinct_of_ofText? houter
  split at hinner
  · cases hinner
    exact List.nodup_nil
  · rename_i hget
    exact (hdistinct.of_get? hget).nodup_names hinner

theorem Node.texts?_eq (node : Node) : node.texts? = node.entries?.bind Entries.texts? := by
  cases node <;> rfl

theorem routes?_eq (t : Text) : routes? t = (routeEntries? t).bind Entries.texts? := by
  unfold routes? routeEntries?
  cases Document.ofText? t with
  | none => rfl
  | some outer =>
      show (match outer.get? routesName with
        | none => some NameMap.empty
        | some node => node.texts?) =
        Option.bind (match outer.get? routesName with
          | none => some []
          | some node => node.entries?) Entries.texts?
      cases outer.get? routesName with
      | none => rfl
      | some node => exact node.texts?_eq

def textEntry (pair : Text × Text) : Text × Node :=
  (pair.1, .text pair.2)

theorem eq_textEntry_iff {entry : Text × Node} {pair : Text × Text} :
    textEntry? entry = some pair ↔ entry = textEntry pair := by
  obtain ⟨name, node⟩ := entry
  obtain ⟨name', content⟩ := pair
  unfold textEntry? textEntry
  cases node <;> simp

theorem eq_map_textEntry_iff {entries : Entries} {pairs : List (Text × Text)} :
    entries.mapM textEntry? = some pairs ↔ entries = pairs.map textEntry := by
  induction entries generalizing pairs with
  | nil => cases pairs <;> simp
  | cons entry entries ih =>
      rw [List.mapM_cons]
      constructor
      · intro h
        obtain ⟨pair, hpair, hlater⟩ := Option.bind_eq_some_iff.1 h
        obtain ⟨later, hmap, heq⟩ := Option.bind_eq_some_iff.1 hlater
        cases heq
        rw [List.map_cons, ← eq_textEntry_iff.1 hpair, ← ih.1 hmap]
      · intro h
        obtain ⟨pair, later, rfl, hpair, hlater⟩ := List.map_eq_cons_iff.1 h.symm
        rw [eq_textEntry_iff.2 hpair.symm, ih.2 hlater.symm]
        rfl

theorem mem_map_textEntry {pairs : List (Text × Text)} {name content : Text} :
    (name, .text content) ∈ pairs.map textEntry ↔ (name, content) ∈ pairs := by
  simp [textEntry]

theorem exists_eq_map_textEntry {entries : Entries}
    (h : ∀ entry ∈ entries, ∃ content, entry.2 = .text content) :
    ∃ pairs : List (Text × Text), entries = pairs.map textEntry := by
  induction entries with
  | nil => exact ⟨[], rfl⟩
  | cons entry entries ih =>
      obtain ⟨⟨content, hcontent⟩, hlater⟩ := List.forall_mem_cons.1 h
      obtain ⟨pairs, rfl⟩ := ih hlater
      refine ⟨(entry.1, content) :: pairs, ?_⟩
      rw [List.map_cons, textEntry, ← hcontent]

/-- The texts of a table with different names are its members. -/
theorem Entries.texts?_eq_some_iff {entries : Entries} {texts : NameMap Text}
    (hnames : (entries.map Prod.fst).Nodup) :
    entries.texts? = some texts ↔ entries.Lists texts := by
  have hget : ∀ {pairs name content}, entries = pairs.map textEntry →
      ((NameMap.ofList pairs).get? name = some content ↔ (name, .text content) ∈ entries) := by
    rintro pairs name content rfl
    have hpairs : (pairs.map Prod.fst).Nodup := by
      rwa [List.map_map] at hnames
    rw [NameMap.get?_ofList_eq_some_iff hpairs, mem_map_textEntry]
  unfold texts?
  rw [Option.map_eq_some_iff]
  constructor
  · rintro ⟨pairs, hpairs, rfl⟩
    have hentries := eq_map_textEntry_iff.1 hpairs
    refine ⟨?_, hget hentries⟩
    subst hentries
    intro entry hentry
    obtain ⟨pair, -, rfl⟩ := List.mem_map.1 hentry
    exact ⟨pair.2, rfl⟩
  · intro hlists
    obtain ⟨pairs, hentries⟩ := exists_eq_map_textEntry hlists.all_texts
    refine ⟨pairs, eq_map_textEntry_iff.2 hentries, NameMap.ext_get? ?_⟩
    intro name
    apply Option.ext
    intro content
    rw [hget hentries, hlists.get?_eq_some_iff]

theorem routes?_eq_some_iff {t : Text} {texts : NameMap Text} :
    routes? t = some texts ↔ ∃ entries, routeEntries? t = some entries ∧ entries.Lists texts := by
  rw [routes?_eq, Option.bind_eq_some_iff]
  constructor
  · rintro ⟨entries, hentries, htexts⟩
    exact ⟨entries, hentries,
      (Entries.texts?_eq_some_iff (nodup_names_of_routeEntries? hentries)).1 htexts⟩
  · rintro ⟨entries, hentries, hlists⟩
    exact ⟨entries, hentries,
      (Entries.texts?_eq_some_iff (nodup_names_of_routeEntries? hentries)).2 hlists⟩

end Toml

/-! ## Pairs of names and texts -/

def Pattern.parse? (text : Text) : Option Pattern :=
  (parse text).toOption

theorem Pattern.parse?_eq_some_iff {text : Text} {pattern : Pattern} :
    parse? text = some pattern ↔ parse text = .ok pattern := by
  unfold parse?
  cases parse text with
  | ok found => simp [Except.toOption]
  | error source => simp [Except.toOption]

namespace Table

def Accepted (pairs : List (Text × Text)) : Prop :=
  ∀ pair ∈ pairs, ∃ pattern, Pattern.parse pair.2 = .ok pattern

def parsed (pairs : List (Text × Text)) : List (Text × Pattern) :=
  pairs.filterMap fun pair => (Pattern.parse? pair.2).map fun pattern => (pair.1, pattern)

def FirstRefused (pairs : List (Text × Text)) (pair : Text × Text) (source : PatternError) : Prop :=
  Pattern.parse pair.2 = .error source ∧
  ∃ front later, pairs = front ++ pair :: later ∧ Accepted front

theorem accepted_or_firstRefused (pairs : List (Text × Text)) :
    Accepted pairs ∨ ∃ pair source, FirstRefused pairs pair source := by
  induction pairs with
  | nil => exact Or.inl nofun
  | cons pair pairs ih =>
      cases hparse : Pattern.parse pair.2 with
      | error source => exact Or.inr ⟨pair, source, hparse, [], pairs, rfl, nofun⟩
      | ok pattern =>
          have hpair : ∃ pattern, Pattern.parse pair.2 = .ok pattern := ⟨pattern, hparse⟩
          rcases ih with hall | ⟨refused, source, hrefused, front, later, rfl, hfront⟩
          · exact Or.inl (List.forall_mem_cons.2 ⟨hpair, hall⟩)
          · exact Or.inr ⟨refused, source, hrefused, pair :: front, later, rfl,
              List.forall_mem_cons.2 ⟨hpair, hfront⟩⟩

theorem FirstRefused.not_accepted {pairs : List (Text × Text)} {pair : Text × Text}
    {source : PatternError} (h : FirstRefused pairs pair source) : ¬ Accepted pairs := by
  obtain ⟨hrefused, front, later, rfl, -⟩ := h
  intro haccepted
  obtain ⟨pattern, hpattern⟩ := haccepted pair (List.mem_append_right _ List.mem_cons_self)
  cases hpattern.symm.trans hrefused

theorem parsed_cons {pair : Text × Text} {pattern : Pattern} (pairs : List (Text × Text))
    (h : Pattern.parse pair.2 = .ok pattern) :
    parsed (pair :: pairs) = (pair.1, pattern) :: parsed pairs := by
  simp [parsed, Pattern.parse?_eq_some_iff.2 h]

/-- A name has the pattern of its text. -/
theorem Accepted.lookup_parsed {pairs : List (Text × Text)} (h : Accepted pairs) (name : Text) :
    NameMap.lookup name (parsed pairs) = (NameMap.lookup name pairs).bind Pattern.parse? := by
  induction pairs with
  | nil => rfl
  | cons pair pairs ih =>
      obtain ⟨⟨pattern, hpattern⟩, hlater⟩ := List.forall_mem_cons.1 h
      rw [parsed_cons pairs hpattern]
      unfold NameMap.lookup
      by_cases hname : name = pair.1
      · rw [if_pos hname, if_pos hname, Option.bind_some, Pattern.parse?_eq_some_iff.2 hpattern]
      · rw [if_neg hname, if_neg hname, ih hlater]

theorem Accepted.get?_ofList_parsed {pairs : List (Text × Text)} (h : Accepted pairs)
    (name : Text) : (NameMap.ofList (parsed pairs)).get? name =
      ((NameMap.ofList pairs).get? name).bind Pattern.parse? := by
  have hreverse : Accepted pairs.reverse := fun pair hpair => h pair (List.mem_reverse.1 hpair)
  rw [NameMap.get?_ofList, NameMap.get?_ofList, ← hreverse.lookup_parsed, parsed, parsed,
    List.filterMap_reverse]

theorem Accepted.foldlM_insertText {pairs : List (Text × Text)} (h : Accepted pairs)
    (table : Table) : pairs.foldlM insertText table =
      .ok ((parsed pairs).foldl (fun table entry => table.insert entry.1 entry.2) table) := by
  induction pairs generalizing table with
  | nil => rfl
  | cons pair pairs ih =>
      obtain ⟨⟨pattern, hpattern⟩, hlater⟩ := List.forall_mem_cons.1 h
      have hinsert : insertText table pair = .ok (table.insert pair.1 pattern) := by
        rw [insertText, hpattern]
      rw [List.foldlM_cons, hinsert, parsed_cons pairs hpattern]
      exact ih hlater _

theorem FirstRefused.foldlM_insertText {pairs : List (Text × Text)} {pair : Text × Text}
    {source : PatternError} (h : FirstRefused pairs pair source) (table : Table) :
    pairs.foldlM insertText table = .error (.invalidRoute pair.1 source) := by
  obtain ⟨hrefused, front, later, rfl, hfront⟩ := h
  rw [List.foldlM_append, hfront.foldlM_insertText]
  show (pair :: later).foldlM insertText _ = _
  rw [List.foldlM_cons, insertText, hrefused]
  rfl

theorem Accepted.mapM_parsePair {pairs : List (Text × Text)} (h : Accepted pairs) :
    pairs.mapM parsePair = .ok (parsed pairs) := by
  induction pairs with
  | nil => rfl
  | cons pair pairs ih =>
      obtain ⟨⟨pattern, hpattern⟩, hlater⟩ := List.forall_mem_cons.1 h
      rw [List.mapM_cons, parsePair, hpattern, ih hlater, parsed_cons pairs hpattern]
      rfl

theorem Accepted.ofPairs_eq {pairs : List (Text × Text)} (h : Accepted pairs) :
    ofPairs pairs = .ok (.ofList (parsed pairs)) := by
  rw [ofPairs, h.mapM_parsePair]
  rfl

theorem FirstRefused.ofPairs_eq {pairs : List (Text × Text)} {pair : Text × Text}
    {source : PatternError} (h : FirstRefused pairs pair source) :
    ofPairs pairs = .error source := by
  obtain ⟨hrefused, front, later, rfl, hfront⟩ := h
  rw [ofPairs, List.mapM_append, hfront.mapM_parsePair, List.mapM_cons, parsePair, hrefused]
  rfl

/-! ## A map of texts -/

/-- A name whose text is no pattern, with the error about the text; any other such name is greater,
in the order of UTF-8 bytes. -/
def LeastRefused (texts : NameMap Text) (name : Text) (source : PatternError) : Prop :=
  (∃ text, texts.get? name = some text ∧ Pattern.parse text = .error source) ∧
  ∀ name' text' source', texts.get? name' = some text' → Pattern.parse text' = .error source' →
    name' = name ∨ Text.utf8 name < Text.utf8 name'

theorem FirstRefused.leastRefused {texts : NameMap Text} {pair : Text × Text}
    {source : PatternError} (h : FirstRefused texts.toList pair source) :
    LeastRefused texts pair.1 source := by
  obtain ⟨hrefused, front, later, htexts, hfront⟩ := h
  have hsorted : (front ++ pair :: later).Pairwise fun e f => e.1 < f.1 := htexts ▸ texts.sorted
  have hmem : pair ∈ texts.toList := htexts ▸ List.mem_append_right _ List.mem_cons_self
  refine ⟨⟨pair.2, NameMap.mem_toList_iff.1 hmem, hrefused⟩, ?_⟩
  intro name' text' source' hget hrefused'
  have hmem' : (name', text') ∈ front ++ pair :: later := htexts ▸ NameMap.mem_toList_iff.2 hget
  rcases List.mem_append.1 hmem' with hbefore | hafter
  · obtain ⟨pattern, hpattern⟩ := hfront _ hbefore
    cases hpattern.symm.trans hrefused'
  · rcases List.mem_cons.1 hafter with rfl | hafter
    · exact Or.inl rfl
    · refine Or.inr (Text.utf8_lt_utf8 ?_)
      exact (List.pairwise_cons.1 (List.pairwise_append.1 hsorted).2.1).1 _ hafter

/-- What loading the texts of routes gives: the patterns of all texts by the names of the texts, if
each of them is a pattern, and the least name whose text is none otherwise. -/
structure LoadsWhole (texts : NameMap Text) (outcome : Except TableError Table) : Prop where
  succeeds_iff : (∃ table, outcome = .ok table) ↔
    ∀ name text, texts.get? name = some text → ∃ pattern, Pattern.parse text = .ok pattern
  mem_names_iff : ∀ {table}, outcome = .ok table → ∀ {name},
    name ∈ table.names ↔ name ∈ texts.names
  get?_eq_some_iff : ∀ {table}, outcome = .ok table → ∀ {name pattern},
    table.get? name = some pattern ↔
      ∃ text, texts.get? name = some text ∧ Pattern.parse text = .ok pattern
  fails_iff : ∀ {error}, outcome = .error error ↔
    ∃ name source, LeastRefused texts name source ∧ error = .invalidRoute name source

theorem Accepted.ofTexts_eq {texts : NameMap Text} (h : Accepted texts.toList) :
    ofTexts texts = .ok (.ofList (parsed texts.toList)) :=
  h.foldlM_insertText .empty

theorem FirstRefused.ofTexts_eq {texts : NameMap Text} {pair : Text × Text}
    {source : PatternError} (h : FirstRefused texts.toList pair source) :
    ofTexts texts = .error (.invalidRoute pair.1 source) :=
  h.foldlM_insertText .empty

theorem Accepted.get?_parsed {texts : NameMap Text} (h : Accepted texts.toList) {name : Text}
    {pattern : Pattern} : (NameMap.ofList (parsed texts.toList)).get? name = some pattern ↔
      ∃ text, texts.get? name = some text ∧ Pattern.parse text = .ok pattern := by
  rw [h.get?_ofList_parsed, NameMap.ofList_toList, Option.bind_eq_some_iff]
  simp only [Pattern.parse?_eq_some_iff]

theorem accepted_toList_iff {texts : NameMap Text} : Accepted texts.toList ↔
    ∀ name text, texts.get? name = some text → ∃ pattern, Pattern.parse text = .ok pattern := by
  constructor
  · intro h name text hget
    exact h _ (NameMap.mem_toList_iff.2 hget)
  · intro h pair hpair
    exact h pair.1 pair.2 (NameMap.mem_toList_iff.1 hpair)

theorem LeastRefused.not_accepted {texts : NameMap Text} {name : Text} {source : PatternError}
    (h : LeastRefused texts name source) : ¬ Accepted texts.toList := by
  obtain ⟨⟨text, hget, hrefused⟩, -⟩ := h
  intro haccepted
  obtain ⟨pattern, hpattern⟩ := accepted_toList_iff.1 haccepted name text hget
  cases hpattern.symm.trans hrefused

theorem LeastRefused.unique {texts : NameMap Text} {name name' : Text}
    {source source' : PatternError} (h : LeastRefused texts name source)
    (h' : LeastRefused texts name' source') : name = name' ∧ source = source' := by
  obtain ⟨⟨text, hget, hrefused⟩, hleast⟩ := h
  obtain ⟨⟨text', hget', hrefused'⟩, hleast'⟩ := h'
  have hname : name = name' := by
    rcases hleast _ _ _ hget' hrefused' with heq | hlt
    · exact heq.symm
    · rcases hleast' _ _ _ hget hrefused with heq | hlt'
      · exact heq
      · exact absurd hlt (List.lt_asymm hlt')
  subst hname
  cases hget.symm.trans hget'
  cases hrefused.symm.trans hrefused'
  exact ⟨rfl, rfl⟩

theorem Accepted.loadsWhole {texts : NameMap Text} (h : Accepted texts.toList) :
    LoadsWhole texts (ofTexts texts) := by
  rw [h.ofTexts_eq]
  refine ⟨iff_of_true ⟨_, rfl⟩ (accepted_toList_iff.1 h), ?_, ?_, ?_⟩
  · rintro table ⟨⟩ name
    rw [← NameMap.get?_isSome_iff_mem_names, ← NameMap.get?_isSome_iff_mem_names,
      Option.isSome_iff_exists, Option.isSome_iff_exists]
    simp only [h.get?_parsed]
    constructor
    · rintro ⟨pattern, text, hget, -⟩
      exact ⟨text, hget⟩
    · rintro ⟨text, hget⟩
      obtain ⟨pattern, hpattern⟩ := accepted_toList_iff.1 h name text hget
      exact ⟨pattern, text, hget, hpattern⟩
  · rintro table ⟨⟩ name pattern
    exact h.get?_parsed
  · intro error
    refine iff_of_false nofun ?_
    rintro ⟨name, source, hleast, -⟩
    exact hleast.not_accepted h

theorem FirstRefused.loadsWhole {texts : NameMap Text} {pair : Text × Text}
    {source : PatternError} (h : FirstRefused texts.toList pair source) :
    LoadsWhole texts (ofTexts texts) := by
  rw [h.ofTexts_eq]
  refine ⟨?_, nofun, nofun, ?_⟩
  · refine iff_of_false nofun ?_
    intro hall
    exact h.not_accepted (accepted_toList_iff.2 hall)
  · intro error
    constructor
    · rintro ⟨⟩
      exact ⟨_, _, h.leastRefused, rfl⟩
    · rintro ⟨name, source', hleast, rfl⟩
      obtain ⟨rfl, rfl⟩ := h.leastRefused.unique hleast
      rfl

theorem loadsWhole_ofTexts (texts : NameMap Text) : LoadsWhole texts (ofTexts texts) := by
  rcases accepted_or_firstRefused texts.toList with haccepted | ⟨pair, source, hfirst⟩
  · exact haccepted.loadsWhole
  · exact hfirst.loadsWhole

/-! ## A document -/

theorem ofToml_eq_ofTexts {document : Text} {texts : NameMap Text}
    (h : Toml.routes? document = some texts) : ofToml document = ofTexts texts := by
  rw [ofToml, h]

theorem ofToml_eq_malformed_iff {document : Text} :
    ofToml document = .error (.malformed document) ↔ Toml.routes? document = none := by
  cases hroutes : Toml.routes? document with
  | none =>
      rw [ofToml, hroutes]
      exact iff_of_true rfl rfl
  | some texts =>
      refine iff_of_false ?_ nofun
      rw [ofToml_eq_ofTexts hroutes, (loadsWhole_ofTexts texts).fails_iff]
      rintro ⟨name, source, -, herror⟩
      cases herror

/-- Two documents load alike, or the TOML reader has something to say of each. -/
def LoadAlike (document document' : Text) : Prop :=
  ofToml document = ofToml document' ∨
    ofToml document = .error (.malformed document) ∧
      ofToml document' = .error (.malformed document')

theorem loadAlike_of_routes?_eq {document document' : Text}
    (h : Toml.routes? document = Toml.routes? document') : LoadAlike document document' := by
  cases hroutes : Toml.routes? document with
  | none =>
      exact Or.inr ⟨ofToml_eq_malformed_iff.2 hroutes, ofToml_eq_malformed_iff.2 (h ▸ hroutes)⟩
  | some texts =>
      rw [hroutes] at h
      exact Or.inl ((ofToml_eq_ofTexts hroutes).trans (ofToml_eq_ofTexts h.symm).symm)

/-- Neither the order of the routes nor what stands beside them in a document matters. -/
theorem loadAlike_of_perm {document document' : Text} {entries entries' : Toml.Entries}
    (h : Toml.routeEntries? document = some entries)
    (h' : Toml.routeEntries? document' = some entries') (hperm : entries.Perm entries') :
    LoadAlike document document' := by
  have hlists : ∀ texts, entries.Lists texts ↔ entries'.Lists texts := by
    intro texts
    constructor
    · rintro ⟨hall, hget⟩
      exact ⟨fun entry hentry => hall entry (hperm.mem_iff.2 hentry), hget.trans hperm.mem_iff⟩
    · rintro ⟨hall, hget⟩
      exact ⟨fun entry hentry => hall entry (hperm.mem_iff.1 hentry),
        hget.trans hperm.mem_iff.symm⟩
  apply loadAlike_of_routes?_eq
  apply Option.ext
  intro texts
  simp only [Toml.routes?_eq_some_iff, h, h', Option.some.injEq, exists_eq_left', hlists]

/-- **A document is loaded as a whole or not at all.** A document that lists texts is loaded iff all
of them are patterns, and then binds each name to the pattern of its text; otherwise the least name
whose text is none is reported with the error about the text (`LoadsWhole`). Whatever else it holds,
a document that lists no texts is malformed. The texts are the members of the table of routes, and
nothing but them decides: documents with the same texts load alike, and so do documents whose tables
of routes differ in the order of their entries. -/
theorem ofToml_loads_whole (document : Text) :
    (∀ texts, Toml.routes? document = some texts → LoadsWhole texts (ofToml document)) ∧
    (ofToml document = .error (.malformed document) ↔ Toml.routes? document = none) ∧
    (∀ texts, Toml.routes? document = some texts ↔
      ∃ entries, Toml.routeEntries? document = some entries ∧ entries.Lists texts) ∧
    (∀ document' texts texts', Toml.routes? document = some texts →
      Toml.routes? document' = some texts' → (∀ name, texts.get? name = texts'.get? name) →
      ofToml document = ofToml document') ∧
    ∀ document' entries entries', Toml.routeEntries? document = some entries →
      Toml.routeEntries? document' = some entries' → entries.Perm entries' →
      LoadAlike document document' := by
  refine ⟨?_, ofToml_eq_malformed_iff, fun texts => Toml.routes?_eq_some_iff, ?_, ?_⟩
  · intro texts hroutes
    rw [ofToml_eq_ofTexts hroutes]
    exact loadsWhole_ofTexts texts
  · intro document' texts texts' hroutes hroutes' hget
    rw [ofToml_eq_ofTexts hroutes, ofToml_eq_ofTexts hroutes', NameMap.ext_get? hget]
  · intro document' entries entries' hentries hentries' hperm
    exact loadAlike_of_perm hentries hentries' hperm

/-- Three routes, two of which are no patterns. -/
def twoRefused : NameMap Text :=
  .ofList [(['a'], "/a".toList), (['b'], "/{r...}/y".toList), (['c'], "/{$}/x".toList)]

/-- The routes under a header, between other keys. -/
def headedDocument : Text :=
  "x = 1\n[routes]\nc = '/{$}/x'\na = '/a'\nb = '/{r...}/y'\n[z]\n".toList

/-- The routes with dots, in another order. -/
def dottedDocument : Text :=
  "routes.b = '/{r...}/y'\nroutes.c = '/{$}/x'\nroutes.a = '/a'".toList

theorem routes?_dottedDocument : Toml.routes? dottedDocument = some twoRefused := by
  decide +kernel

theorem leastRefused_twoRefused :
    LeastRefused twoRefused ['b'] (.restNotLast "/{r...}/y".toList ['r']) := by
  refine ⟨⟨"/{r...}/y".toList, by decide, rfl⟩, ?_⟩
  intro name text source hget hrefused
  have hmem : (name, text) ∈ [(['a'], "/a".toList), (['b'], "/{r...}/y".toList),
      (['c'], "/{$}/x".toList)] := NameMap.mem_toList_iff.2 hget
  simp only [List.mem_cons, List.not_mem_nil, or_false] at hmem
  rcases hmem with ⟨rfl, rfl⟩ | ⟨rfl, rfl⟩ | ⟨rfl, rfl⟩
  · cases hrefused
  · exact Or.inl rfl
  · exact Or.inr (by decide)

theorem ofToml_loads_whole_two_refused :
    ofToml headedDocument =
      .error (.invalidRoute ['b'] (.restNotLast "/{r...}/y".toList ['r'])) ∧
    ofToml headedDocument = ofToml dottedDocument := by
  have hheaded : Toml.routes? headedDocument = some twoRefused := by decide +kernel
  obtain ⟨hwhole, -, -, hsame, -⟩ := ofToml_loads_whole headedDocument
  exact ⟨(hwhole _ hheaded).fails_iff.2 ⟨_, _, leastRefused_twoRefused, rfl⟩,
    hsame _ _ _ hheaded routes?_dottedDocument fun name => rfl⟩

end Table

end RoutePattern
