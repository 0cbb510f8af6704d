import RoutePattern.Text

/-!
# Maps by name

A finite map from names to values is the list of its entries in strictly ascending order of the
names, compared character by character by code point; this is also the order of their UTF-8 bytes.
The order makes the list canonical: two maps that answer every look-up alike are equal
(`NameMap.ext_get?`).
-/

namespace RoutePattern

/-- A finite map from names to values. -/
structure NameMap (α : Type) where
  entries : List (Text × α)
  /-- Each name stands once, and in its place. -/
  sorted : entries.Pairwise fun e f => e.1 < f.1

namespace NameMap

variable {α : Type}

/-! ## Operations -/

def empty : NameMap α where
  entries := []
  sorted := List.Pairwise.nil

/-- Puts an entry in its place among sorted entries, over the one of the same name. -/
def insertEntry (name : Text) (value : α) : List (Text × α) → List (Text × α)
  | [] => [(name, value)]
  | entry :: later =>
    if name < entry.1 then (name, value) :: entry :: later
    else if name = entry.1 then (name, value) :: later
    else entry :: insertEntry name value later

theorem mem_insertEntry {name : Text} {value : α} {entries : List (Text × α)} {e : Text × α}
    (h : e ∈ insertEntry name value entries) : e = (name, value) ∨ e ∈ entries := by
  induction entries with
  | nil => exact Or.inl (by simpa [insertEntry] using h)
  | cons entry later ih =>
      rw [insertEntry] at h
      split at h
      · simpa using h
      · split at h
        · rcases List.mem_cons.1 h with h | h
          · exact Or.inl h
          · exact Or.inr (List.mem_cons_of_mem _ h)
        · rcases List.mem_cons.1 h with h | h
          · exact Or.inr (h ▸ List.mem_cons_self)
          · exact (ih h).imp_right (List.mem_cons_of_mem _)

theorem lt_of_not_lt_of_ne {s t : Text} (h : ¬ s < t) (hne : s ≠ t) : t < s := by
  rcases List.le_iff_lt_or_eq.1 (List.not_lt.1 h) with h | h
  · exact h
  · exact absurd h.symm hne

theorem sorted_insertEntry {name : Text} {value : α} {entries : List (Text × α)}
    (h : entries.Pairwise fun e f => e.1 < f.1) :
    (insertEntry name value entries).Pairwise fun e f => e.1 < f.1 := by
  induction entries with
  | nil => simp [insertEntry]
  | cons entry later ih =>
      obtain ⟨hentry, hlater⟩ := List.pairwise_cons.1 h
      rw [insertEntry]
      split
      · rename_i hlt
        refine List.pairwise_cons.2 ⟨fun e he => ?_, h⟩
        rcases List.mem_cons.1 he with rfl | he
        · exact hlt
        · exact List.lt_trans hlt (hentry e he)
      · split
        · rename_i heq
          exact List.pairwise_cons.2 ⟨fun e he => heq ▸ hentry e he, hlater⟩
        · rename_i hlt hne
          refine List.pairwise_cons.2 ⟨fun e he => ?_, ih hlater⟩
          rcases mem_insertEntry he with rfl | he
          · exact lt_of_not_lt_of_ne hlt hne
          · exact hentry e he

/-- Binds a name to a value, in place of what it was bound to. -/
def insert (map : NameMap α) (name : Text) (value : α) : NameMap α where
  entries := insertEntry name value map.entries
  sorted := sorted_insertEntry map.sorted

def lookup (name : Text) : List (Text × α) → Option α
  | [] => none
  | entry :: later => if name = entry.1 then some entry.2 else lookup name later

def get? (map : NameMap α) (name : Text) : Option α :=
  lookup name map.entries

/-- Binds a name to a value, and gives the value that it was bound to before. -/
def swap (map : NameMap α) (name : Text) (value : α) : Option α × NameMap α :=
  (map.get? name, map.insert name value)

def toList (map : NameMap α) : List (Text × α) :=
  map.entries

def names (map : NameMap α) : List Text :=
  map.entries.map Prod.fst

def size (map : NameMap α) : Nat :=
  map.entries.length

def isEmpty (map : NameMap α) : Bool :=
  map.entries.isEmpty

/-- Binds names to values one after the other, so that the last value of a name stays. -/
def ofList (pairs : List (Text × α)) : NameMap α :=
  pairs.foldl (fun map pair => map.insert pair.1 pair.2) empty

instance [DecidableEq α] : DecidableEq (NameMap α) := fun s t =>
  decidable_of_iff (s.entries = t.entries)
    ⟨fun h => by cases s; cases t; cases h; rfl, fun h => h ▸ rfl⟩

/-! ## Look-ups -/

@[simp] theorem get?_empty (name : Text) : (empty : NameMap α).get? name = none := rfl

theorem lookup_insertEntry (name key : Text) (value : α) (entries : List (Text × α)) :
    lookup key (insertEntry name value entries) =
      if key = name then some value else lookup key entries := by
  induction entries with
  | nil => rfl
  | cons entry later ih =>
      rw [insertEntry]
      split
      · rfl
      · split
        · rename_i heq
          by_cases h : key = name
          · simp [lookup, h]
          · have hentry : key ≠ entry.1 := heq ▸ h
            simp [lookup, h, hentry]
        · rename_i hne
          by_cases h : key = name
          · have hentry : key ≠ entry.1 := h ▸ hne
            rw [lookup, if_neg hentry, ih, if_pos h, if_pos h]
          · simp [lookup, ih, h]

@[simp] theorem get?_insert (map : NameMap α) (name key : Text) (value : α) :
    (map.insert name value).get? key = if key = name then some value else map.get? key :=
  lookup_insertEntry name key value map.entries

theorem lookup_eq_none {name : Text} {entries : List (Text × α)}
    (h : ∀ e ∈ entries, name < e.1) : lookup name entries = none := by
  induction entries with
  | nil => rfl
  | cons entry later ih =>
      have hne : name ≠ entry.1 := fun heq =>
        List.lt_irrefl entry.1 (heq ▸ h entry List.mem_cons_self)
      rw [lookup, if_neg hne]
      exact ih fun e he => h e (List.mem_cons_of_mem _ he)

theorem lookup_eq_some_of_forall {name : Text} {value : α} {entries : List (Text × α)}
    (hmem : ∃ e ∈ entries, e.1 = name) (hvalue : ∀ e ∈ entries, e.1 = name → e.2 = value) :
    lookup name entries = some value := by
  induction entries with
  | nil =>
      obtain ⟨e, he, -⟩ := hmem
      cases he
  | cons entry later ih =>
      by_cases hentry : name = entry.1
      · rw [lookup, if_pos hentry, hvalue entry List.mem_cons_self hentry.symm]
      · rw [lookup, if_neg hentry]
        refine ih ?_ fun e he => hvalue e (List.mem_cons_of_mem _ he)
        obtain ⟨e, he, hname⟩ := hmem
        rcases List.mem_cons.1 he with rfl | he
        · exact absurd hname.symm hentry
        · exact ⟨e, he, hname⟩

theorem lookup_append (name : Text) (es fs : List (Text × α)) :
    lookup name (es ++ fs) = (lookup name es).or (lookup name fs) := by
  induction es with
  | nil => rfl
  | cons e es ih =>
      by_cases h : name = e.1
      · simp [lookup, h]
      · simp [lookup, h, ih]

theorem get?_foldl_insert (pairs : List (Text × α)) (map : NameMap α) (name : Text) :
    (pairs.foldl (fun map pair => map.insert pair.1 pair.2) map).get? name =
      (lookup name pairs.reverse).or (map.get? name) := by
  induction pairs generalizing map with
  | nil => rfl
  | cons pair pairs ih =>
      rw [List.foldl_cons, ih, get?_insert, List.reverse_cons, lookup_append, Option.or_assoc]
      by_cases h : name = pair.1
      · simp [lookup, h]
      · simp [lookup, h]

/-- A name is bound to the value of its last pair. -/
theorem get?_ofList (pairs : List (Text × α)) (name : Text) :
    (ofList pairs).get? name = lookup name pairs.reverse := by
  rw [ofList, get?_foldl_insert, get?_empty, Option.or_none]

theorem get?_isSome_iff_mem_names {map : NameMap α} {name : Text} :
    (map.get? name).isSome ↔ name ∈ map.names := by
  unfold get? names
  induction map.entries with
  | nil => simp [lookup]
  | cons entry later ih =>
      by_cases h : name = entry.1
      · simp [lookup, h]
      · simp [lookup, h, ih]

theorem entries_eq_of_lookup {es fs : List (Text × α)}
    (hes : es.Pairwise fun e f => e.1 < f.1) (hfs : fs.Pairwise fun e f => e.1 < f.1)
    (h : ∀ name, lookup name es = lookup name fs) : es = fs := by
  induction es generalizing fs with
  | nil =>
      cases fs with
      | nil => rfl
      | cons f fs => simpa [lookup] using h f.1
  | cons e es ih =>
      cases fs with
      | nil => simpa [lookup] using h e.1
      | cons f fs =>
          obtain ⟨he, hes⟩ := List.pairwise_cons.1 hes
          obtain ⟨hf, hfs⟩ := List.pairwise_cons.1 hfs
          have hkey : e.1 = f.1 := by
            apply Classical.byContradiction
            intro hne
            by_cases hlt : e.1 < f.1
            · have hnone : lookup e.1 (f :: fs) = none := lookup_eq_none fun g hg => by
                rcases List.mem_cons.1 hg with rfl | hg
                · exact hlt
                · exact List.lt_trans hlt (hf g hg)
              have hsome := h e.1
              rw [hnone] at hsome
              simp [lookup] at hsome
            · have hlt := lt_of_not_lt_of_ne hlt hne
              have hnone : lookup f.1 (e :: es) = none := lookup_eq_none fun g hg => by
                rcases List.mem_cons.1 hg with rfl | hg
                · exact hlt
                · exact List.lt_trans hlt (he g hg)
              have hsome := h f.1
              rw [hnone] at hsome
              simp [lookup] at hsome
          have hvalue : e.2 = f.2 := by simpa [lookup, hkey] using h e.1
          have htail : es = fs := ih hes hfs fun name => by
            by_cases hname : name = e.1
            · rw [hname, lookup_eq_none he, hkey, lookup_eq_none hf]
            · simpa [lookup, hname, hkey ▸ hname] using h name
          rw [htail, Prod.ext hkey hvalue]

/-- Maps that answer every look-up alike are equal. -/
theorem ext_get? {s t : NameMap α} (h : ∀ name, s.get? name = t.get? name) : s = t := by
  have hentries := entries_eq_of_lookup s.sorted t.sorted h
  cases s
  cases t
  cases hentries
  rfl

end NameMap

end RoutePattern
