import RoutePattern.Proofs.Bindings
import RoutePattern.Toml.Document

/-!
# Names are written once

No table of a well-formed TOML document has two entries of one name
(`Document.distinct_of_ofText?`). Lines only ever put a node where there is none or in place of the
one that is there (`Entries.Distinct.set`), at the end of a path through tables that are kept as
they are (`Entries.Keeps.change`), so one line keeps the names distinct (`Document.step_distinct`),
and so do all lines of a document. A table in braces is filled in the same way from its own entries
(`distinct_of_value`).
-/

namespace RoutePattern.Toml

/-! ## Distinct names -/

/-- The names in each table of a node are distinct. -/
inductive Node.Distinct : Node → Prop where
  | text (content : Text) : Distinct (.text content)
  | moment (content : Text) : Distinct (.moment content)
  | scalar : Distinct .scalar
  | array : Distinct .array
  | closed {entries : List (Text × Node)} (names : (entries.map Prod.fst).Nodup)
      (nodes : ∀ entry ∈ entries, Distinct entry.2) : Distinct (.closed entries)
  | table {origin : Origin} {entries : List (Text × Node)} (names : (entries.map Prod.fst).Nodup)
      (nodes : ∀ entry ∈ entries, Distinct entry.2) : Distinct (.table origin entries)
  | tables {elements : List (List (Text × Node))}
      (names : ∀ entries ∈ elements, (entries.map Prod.fst).Nodup)
      (nodes : ∀ entries ∈ elements, ∀ entry ∈ entries, Distinct entry.2) :
      Distinct (.tables elements)

structure Entries.Distinct (entries : Entries) : Prop where
  names : (entries.map Prod.fst).Nodup
  nodes : ∀ entry ∈ entries, entry.2.Distinct

theorem Node.distinct_closed_iff {entries : Entries} :
    (Node.closed entries).Distinct ↔ entries.Distinct := by
  constructor
  · intro h
    cases h with
    | closed hnames hnodes => exact ⟨hnames, hnodes⟩
  · intro h
    exact .closed h.names h.nodes

theorem Node.distinct_table_iff {origin : Origin} {entries : Entries} :
    (Node.table origin entries).Distinct ↔ entries.Distinct := by
  constructor
  · intro h
    cases h with
    | table hnames hnodes => exact ⟨hnames, hnodes⟩
  · intro h
    exact .table h.names h.nodes

theorem Node.distinct_tables_iff {elements : List Entries} :
    (Node.tables elements).Distinct ↔ ∀ entries ∈ elements, entries.Distinct := by
  constructor
  · intro h entries hmem
    cases h with
    | tables hnames hnodes => exact ⟨hnames entries hmem, hnodes entries hmem⟩
  · intro h
    exact .tables (fun entries hmem => (h entries hmem).names)
      fun entries hmem => (h entries hmem).nodes

namespace Entries

variable {name : Text} {node : Node} {entries : Entries}

theorem distinct_nil : Entries.Distinct [] :=
  ⟨List.nodup_nil, nofun⟩

theorem get?_eq_lookup (name : Text) (entries : Entries) :
    get? name entries = NameMap.lookup name entries := by
  induction entries with
  | nil => rfl
  | cons entry later ih => rw [get?, NameMap.lookup, ih]

theorem Distinct.of_get? (h : entries.Distinct) (hnode : get? name entries = some node) :
    node.Distinct := by
  rw [get?_eq_lookup] at hnode
  exact h.nodes _ (NameMap.mem_of_lookup hnode)

/-! ## Putting a node under a name -/

theorem mem_set {entry : Text × Node} (h : entry ∈ set name node entries) :
    entry = (name, node) ∨ entry ∈ entries := by
  induction entries with
  | nil => exact Or.inl (List.mem_singleton.1 h)
  | cons first later ih =>
      rw [set] at h
      split at h
      · exact (List.mem_cons.1 h).imp_right (List.mem_cons_of_mem _)
      · rcases List.mem_cons.1 h with rfl | h
        · exact Or.inr List.mem_cons_self
        · exact (ih h).imp_right (List.mem_cons_of_mem _)

theorem nodup_names_set (h : (entries.map Prod.fst).Nodup) :
    ((set name node entries).map Prod.fst).Nodup := by
  induction entries with
  | nil => simp [set]
  | cons first later ih =>
      obtain ⟨hfirst, hlater⟩ := List.nodup_cons.1 h
      rw [set]
      split
      · rename_i hname
        exact List.nodup_cons.2 ⟨hname ▸ hfirst, hlater⟩
      · rename_i hname
        refine List.nodup_cons.2 ⟨?_, ih hlater⟩
        intro hmem
        obtain ⟨entry, hentry, heq⟩ := List.mem_map.1 hmem
        rcases mem_set hentry with rfl | hentry
        · exact hname heq
        · exact hfirst (List.mem_map.2 ⟨entry, hentry, heq⟩)

theorem Distinct.set (h : entries.Distinct) (hnode : node.Distinct) :
    (Entries.set name node entries).Distinct := by
  refine ⟨nodup_names_set h.names, ?_⟩
  intro entry hentry
  rcases mem_set hentry with rfl | hentry
  · exact hnode
  · exact h.nodes entry hentry

/-! ## Changing the table at the end of a path -/

def Keeps (f : Origin → Entries → Option Entries) : Prop :=
  ∀ {origin entries entries'}, f origin entries = some entries' → entries.Distinct →
    entries'.Distinct

theorem Keeps.change {way : Origin} {f : Origin → Entries → Option Entries} (hf : Keeps f)
    (path : List Text) : Keeps (Entries.change way f path) := by
  induction path with
  | nil => exact hf
  | cons name path ih =>
      intro origin entries entries' h hd
      rw [Entries.change] at h
      split at h
      -- the table is missing and is made
      · obtain ⟨inner, hinner, hset⟩ := Option.bind_eq_some_iff.1 h
        cases hset
        exact hd.set (Node.distinct_table_iff.2 (ih hinner distinct_nil))
      · rename_i hget
        split at h
        · cases h
        · obtain ⟨inner, hinner, hset⟩ := Option.bind_eq_some_iff.1 h
          cases hset
          have hthere := Node.distinct_table_iff.1 (hd.of_get? hget)
          exact hd.set (Node.distinct_table_iff.2 (ih hinner hthere))
      -- the latest of several tables stands for them
      · rename_i hget
        obtain ⟨latest, hlatest, hset⟩ := Option.bind_eq_some_iff.1 h
        cases hset
        have hthere := Node.distinct_tables_iff.1 (hd.of_get? hget)
        refine hd.set (Node.distinct_tables_iff.2 ?_)
        obtain ⟨hfirst, hearlier⟩ := List.forall_mem_cons.1 hthere
        exact List.forall_mem_cons.2 ⟨ih hlatest hfirst, hearlier⟩
      · cases h

theorem Distinct.assign {key : Key} {origin : Origin} {entries' : Entries}
    (h : Entries.assign key node origin entries = some entries') (hd : entries.Distinct)
    (hnode : node.Distinct) : entries'.Distinct := by
  refine Keeps.change ?_ key.path h hd
  intro origin entries entries' h hd
  dsimp only at h
  split at h
  · cases h
  · split at h
    · cases h
    · cases h
      exact hd.set hnode

theorem Distinct.openTable {key : Key} {entries' : Entries}
    (h : Entries.openTable key entries = some entries') (hd : entries.Distinct) :
    entries'.Distinct := by
  refine Keeps.change ?_ key.path h hd
  intro origin entries entries' h hd
  dsimp only at h
  split at h
  · cases h
    exact hd.set (Node.distinct_table_iff.2 distinct_nil)
  · rename_i hget
    cases h
    exact hd.set (Node.distinct_table_iff.2 (Node.distinct_table_iff.1 (hd.of_get? hget)))
  · cases h

theorem Distinct.openElement {key : Key} {entries' : Entries}
    (h : Entries.openElement key entries = some entries') (hd : entries.Distinct) :
    entries'.Distinct := by
  refine Keeps.change ?_ key.path h hd
  intro origin entries entries' h hd
  dsimp only at h
  split at h
  · cases h
    exact hd.set (Node.distinct_tables_iff.2 (List.forall_mem_singleton.2 distinct_nil))
  · rename_i hget
    cases h
    have hthere := Node.distinct_tables_iff.1 (hd.of_get? hget)
    exact hd.set (Node.distinct_tables_iff.2 (List.forall_mem_cons.2 ⟨distinct_nil, hthere⟩))
  · cases h

end Entries

/-! ## Values -/

/-- What every step of a run that may fail keeps, the run keeps. -/
theorem foldlM_keeps {α σ : Type} {p : σ → Prop} {step : σ → α → Option σ} {inputs : List α}
    (hstep : ∀ input ∈ inputs, ∀ {s s'}, step s input = some s' → p s → p s') {s s' : σ}
    (h : inputs.foldlM step s = some s') (hs : p s) : p s' := by
  induction inputs generalizing s with
  | nil =>
      cases h
      exact hs
  | cons input inputs ih =>
      obtain ⟨hinput, hinputs⟩ := List.forall_mem_cons.1 hstep
      rw [List.foldlM_cons] at h
      obtain ⟨next, hnext, hrest⟩ := Option.bind_eq_some_iff.1 h
      exact ih hinputs hrest (hinput hnext hs)

/-- A table in braces is filled entry by entry, from nothing. -/
theorem distinct_of_foldlM_assign {written : List (Key × Node)} {entries : Entries}
    (h : written.foldlM (fun es (k, node) => Entries.assign k node .header es) [] = some entries)
    (hwritten : ∀ entry ∈ written, entry.2.Distinct) : (Node.closed entries).Distinct := by
  refine Node.distinct_closed_iff.2 (foldlM_keeps ?_ h Entries.distinct_nil)
  intro entry hentry es es' hassign hes
  exact hes.assign hassign (hwritten entry hentry)

section Braces

variable {read : Reader Node}
  (hread : ∀ {t node left}, read t = some (node, left) → node.Distinct)
include hread

theorem distinct_of_keyValue {t left : Text} {written : Key × Node}
    (h : keyValue read t = some (written, left)) : written.2.Distinct := by
  simp only [keyValue, Option.bind_eq_bind, Option.bind_eq_some_iff] at h
  obtain ⟨_, -, _, -, _, hnode, hwritten⟩ := h
  cases hwritten
  exact hread hnode

theorem distinct_of_laterKeyValue {t left : Text} {written : Key × Node}
    (h : laterKeyValue read t = some (written, left)) : written.2.Distinct := by
  unfold laterKeyValue at h
  split at h
  · exact distinct_of_keyValue hread h
  · cases h

theorem distinct_of_tableBody {t left : Text} {node : Node}
    (h : tableBody read t = some (node, left)) : node.Distinct := by
  unfold tableBody at h
  cases hfirst : keyValue read t with
  | none =>
      simp only [hfirst, Option.bind_eq_bind, Option.bind_eq_some_iff] at h
      obtain ⟨_, -, entries, hentries, hnode⟩ := h
      cases hnode
      exact distinct_of_foldlM_assign hentries nofun
  | some first =>
      simp only [hfirst, Option.bind_eq_bind, Option.bind_eq_some_iff] at h
      obtain ⟨_, -, entries, hentries, hnode⟩ := h
      cases hnode
      apply distinct_of_foldlM_assign hentries
      refine List.forall_mem_cons.2 ⟨distinct_of_keyValue hread hfirst, ?_⟩
      exact Reader.forall_mem_many (distinct_of_laterKeyValue hread) _

end Braces

theorem eq_array_of_arrayBody {read : Reader Node} {t left : Text} {node : Node}
    (h : arrayBody read t = some (node, left)) : node = .array := by
  simp only [arrayBody, Option.bind_eq_bind, Option.bind_eq_some_iff] at h
  obtain ⟨_, -, hnode⟩ := h
  cases hnode
  rfl

/-- A value holds no table, or is a table in braces with values of less depth. -/
theorem value_cases {depth : Nat} {t left : Text} {node : Node}
    (h : value depth t = some (node, left)) :
    (∃ content, node = .text content) ∨ (∃ content, node = .moment content) ∨ node = .scalar ∨
      node = .array ∨
      ∃ inner t', depth = inner + 1 ∧ tableBody (value inner) t' = some (node, left) := by
  unfold value at h
  split at h
  · cases h
  · split at h
    · obtain ⟨_, -, hnode⟩ := Option.map_eq_some_iff.1 h
      cases hnode
      exact Or.inl ⟨_, rfl⟩
    · split at h
      · split at h
        · cases h
        · exact Or.inr (Or.inr (Or.inr (Or.inl (eq_array_of_arrayBody h))))
      · split at h
        · split at h
          · cases h
          · exact Or.inr (Or.inr (Or.inr (Or.inr ⟨_, _, rfl, h⟩)))
        · split at h
          · split at h
            · cases h
              exact Or.inr (Or.inl ⟨_, rfl⟩)
            · obtain ⟨_, -, hnode⟩ := Option.map_eq_some_iff.1 h
              cases hnode
              exact Or.inr (Or.inr (Or.inl rfl))
          · obtain ⟨_, -, hnode⟩ := Option.map_eq_some_iff.1 h
            cases hnode
            exact Or.inr (Or.inr (Or.inl rfl))

theorem distinct_of_value {depth : Nat} {t left : Text} {node : Node}
    (h : value depth t = some (node, left)) : node.Distinct := by
  induction depth using Nat.strongRecOn generalizing t left node with
  | ind depth ih =>
      rcases value_cases h with ⟨content, rfl⟩ | ⟨content, rfl⟩ | rfl | rfl | ⟨inner, _, rfl, hbody⟩
      · exact .text content
      · exact .moment content
      · exact .scalar
      · exact .array
      · exact distinct_of_tableBody (ih inner (Nat.lt_succ_self inner)) hbody

/-! ## Lines and documents -/

def Line.Distinct : Line → Prop
  | .entry _ node => node.Distinct
  | _ => True

theorem distinct_of_lineContent {t left : Text} {content : Line}
    (h : lineContent t = some (content, left)) : content.Distinct := by
  unfold lineContent at h
  split at h
  · cases h
    trivial
  · simp only [Option.bind_eq_bind, Option.bind_eq_some_iff] at h
    obtain ⟨_, -, _, -, hcontent⟩ := h
    cases hcontent
    trivial
  · simp only [Option.bind_eq_bind, Option.bind_eq_some_iff] at h
    obtain ⟨_, -, _, -, hcontent⟩ := h
    cases hcontent
    trivial
  · split at h
    · cases h
      trivial
    · obtain ⟨written, hwritten, hcontent⟩ := Option.map_eq_some_iff.1 h
      cases hcontent
      exact distinct_of_keyValue distinct_of_value hwritten

theorem distinct_of_line {t left : Text} {content : Line} (h : line t = some (content, left)) :
    content.Distinct := by
  unfold line at h
  split at h
  · cases h
  · simp only [Option.bind_eq_bind, Option.bind_eq_some_iff] at h
    obtain ⟨_, hcontent, _, -, heq⟩ := h
    cases heq
    exact distinct_of_lineContent hcontent

namespace Document

theorem step_distinct {document document' : Document} {content : Line}
    (h : document.step content = some document') (hcontent : content.Distinct)
    (hd : document.entries.Distinct) : document'.entries.Distinct := by
  cases content with
  | blank =>
      cases h
      exact hd
  | header key =>
      obtain ⟨entries, hentries, hnext⟩ := Option.bind_eq_some_iff.1 h
      cases hnext
      exact hd.openTable hentries
  | element key =>
      obtain ⟨entries, hentries, hnext⟩ := Option.bind_eq_some_iff.1 h
      cases hnext
      exact hd.openElement hentries
  | entry key node =>
      obtain ⟨entries, hentries, hnext⟩ := Option.bind_eq_some_iff.1 h
      cases hnext
      have hassign : Entries.Keeps (Entries.assign key node) := by
        intro origin es es' hes hdistinct
        exact hdistinct.assign hes hcontent
      exact hassign.change document.current hentries hd

/-- The names in every table of a document are distinct. -/
theorem distinct_of_ofText? {t : Text} {entries : Entries} (h : ofText? t = some entries) :
    entries.Distinct := by
  simp only [ofText?, lines?, Option.bind_eq_bind, Option.bind_eq_some_iff] at h
  obtain ⟨lines, hlines, document, hdocument, heq⟩ := h
  cases heq
  split at hlines
  · cases hlines
    refine foldlM_keeps (p := fun document => document.entries.Distinct) ?_ hdocument
      Entries.distinct_nil
    intro content hcontent document document' hstep hd
    exact step_distinct hstep (Reader.forall_mem_many distinct_of_line _ content hcontent) hd
  · cases hlines

end Document

end RoutePattern.Toml
