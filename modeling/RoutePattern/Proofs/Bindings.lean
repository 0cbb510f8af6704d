import RoutePattern.NameMap
import RoutePattern.Proofs.ByteOrder

/-!
# What a map by name lists

The entries of a map are its bindings, each once (`mem_toList_iff`), in ascending order of the UTF-8
bytes of the names (`ascending_names`). A map that is filled from pairs binds a name to the value of
the last pair of that name (`get?_ofList_eq_lastValue?`), and one that is filled from its own
entries is the same (`ofList_toList`).
-/

namespace RoutePattern.NameMap

variable {α : Type} {name : Text} {value : α}

/-! ## Entries and look-ups -/

theorem lookup_eq_find? (name : Text) (entries : List (Text × α)) :
    lookup name entries = (entries.find? fun entry => entry.1 = name).map Prod.snd := by
  induction entries with
  | nil => rfl
  | cons entry later ih =>
      by_cases h : name = entry.1
      · simp [lookup, h]
      · simp [lookup, h, Ne.symm h, ih]

theorem mem_of_lookup {entries : List (Text × α)} (h : lookup name entries = some value) :
    (name, value) ∈ entries := by
  rw [lookup_eq_find?, Option.map_eq_some_iff] at h
  obtain ⟨⟨found, value'⟩, hfound, rfl⟩ := h
  have hname : found = name := by simpa using List.find?_some hfound
  exact hname ▸ List.mem_of_find?_eq_some hfound

/-- Among entries with different names a look-up finds every entry. -/
theorem lookup_eq_some_of_mem {entries : List (Text × α)} (hnames : (entries.map Prod.fst).Nodup)
    (h : (name, value) ∈ entries) : lookup name entries = some value := by
  induction entries with
  | nil => cases h
  | cons entry later ih =>
      obtain ⟨hentry, hlater⟩ := List.nodup_cons.1 hnames
      rcases List.mem_cons.1 h with rfl | hmem
      · exact if_pos rfl
      · have hne : name ≠ entry.1 := by
          rintro rfl
          exact hentry (List.mem_map.2 ⟨_, hmem, rfl⟩)
        rw [lookup, if_neg hne, ih hlater hmem]

theorem lookup_eq_some_iff {entries : List (Text × α)} (hnames : (entries.map Prod.fst).Nodup) :
    lookup name entries = some value ↔ (name, value) ∈ entries :=
  ⟨mem_of_lookup, lookup_eq_some_of_mem hnames⟩

theorem nodup_names (map : NameMap α) : map.names.Nodup := by
  refine List.Pairwise.imp ?_ (List.pairwise_map.2 map.sorted)
  rintro s t hlt rfl
  exact List.lt_irrefl _ hlt

theorem mem_toList_iff {map : NameMap α} :
    (name, value) ∈ map.toList ↔ map.get? name = some value :=
  (lookup_eq_some_iff map.nodup_names).symm

/-- The names ascend in the order of their UTF-8 bytes. -/
theorem ascending_names (map : NameMap α) : (map.names.map Text.utf8).Pairwise (· < ·) :=
  List.pairwise_map.2 (List.Pairwise.imp Text.utf8_lt_utf8 (List.pairwise_map.2 map.sorted))

/-! ## Pairs -/

/-- The value of the last pair of a name. -/
def lastValue? (name : Text) (pairs : List (Text × α)) : Option α :=
  ((pairs.filter fun pair => pair.1 = name).getLast?).map Prod.snd

theorem lookup_reverse (name : Text) (pairs : List (Text × α)) :
    lookup name pairs.reverse = lastValue? name pairs := by
  rw [lastValue?, List.getLast?_filter, lookup_eq_find?]

theorem lastValue?_concat (name : Text) (pairs : List (Text × α)) (pair : Text × α) :
    lastValue? name (pairs ++ [pair]) =
      if name = pair.1 then some pair.2 else lastValue? name pairs := by
  rw [← lookup_reverse, ← lookup_reverse, List.reverse_append]
  rfl

theorem lastValue?_eq_none_iff {pairs : List (Text × α)} :
    lastValue? name pairs = none ↔ name ∉ pairs.map Prod.fst := by
  rw [lastValue?, Option.map_eq_none_iff, List.getLast?_eq_none_iff, List.filter_eq_nil_iff,
    List.mem_map]
  simp only [decide_eq_true_eq, not_exists, not_and]

theorem get?_ofList_eq_lastValue? (pairs : List (Text × α)) (name : Text) :
    (ofList pairs).get? name = lastValue? name pairs := by
  rw [get?_ofList, lookup_reverse]

/-- A map that is filled from pairs of different names binds what the pairs say. -/
theorem get?_ofList_eq_some_iff {pairs : List (Text × α)} (hnames : (pairs.map Prod.fst).Nodup) :
    (ofList pairs).get? name = some value ↔ (name, value) ∈ pairs := by
  have hreverse : (pairs.reverse.map Prod.fst).Nodup := by
    rw [List.map_reverse]
    exact List.pairwise_reverse.2 (hnames.imp Ne.symm)
  rw [get?_ofList, lookup_eq_some_iff hreverse, List.mem_reverse]

/-- A map is filled from its own entries as it is. -/
theorem ofList_toList (map : NameMap α) : ofList map.toList = map := by
  apply ext_get?
  intro name
  apply Option.ext
  intro value
  exact (get?_ofList_eq_some_iff map.nodup_names).trans mem_toList_iff

end RoutePattern.NameMap
