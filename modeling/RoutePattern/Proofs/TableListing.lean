import Mathlib.Data.List.Forall2
import RoutePattern.Proofs.CommandReversal
import RoutePattern.Proofs.Layout
import RoutePattern.Proofs.OneRoute

/-!
# The entries of a table's listing

The listing of a table has one entry for each route, if it comes to an end. The width of the names
is taken from their bytes, and the names are filled up by characters; no name has more characters
than bytes, so that each fits and the texts of the patterns stand one below another
(`length_le_nameWidth`, `source_prefix_drop`). The names of the wildcards are read back from the
last brackets of an entry (`namesInBrackets_append`), whatever the text of the pattern holds,
because a wildcard name has neither a bracket nor a separator. But a width can be too large for a
column: a name of more than 65535 bytes stops the listing behind its first line
(`ofRun_check_of_too_wide`).
-/

namespace RoutePattern

/-! ## Widths -/

/-- A text has at least as many bytes as characters. -/
theorem Text.length_le_length_utf8 (t : Text) : t.length ≤ (Text.utf8 t).length := by
  induction t with
  | nil => exact Nat.le_refl 0
  | cons c t ih =>
      have hpos := c.utf8Size_pos
      rw [utf8_cons, List.length_append, String.length_utf8EncodeChar, List.length_cons]
      omega

theorem foldl_max_le_iff {lengths : List Nat} {least width : Nat} :
    lengths.foldl max least ≤ width ↔ least ≤ width ∧ ∀ length ∈ lengths, length ≤ width := by
  induction lengths generalizing least with
  | nil => simp
  | cons length lengths ih =>
      rw [List.foldl_cons, ih, Nat.max_le, List.forall_mem_cons, and_assoc]

/-- The width is the least number that no name has more bytes than. -/
theorem Table.nameWidth_le_iff {table : Table} {width : Nat} :
    table.nameWidth ≤ width ↔ ∀ name ∈ table.names, (Text.utf8 name).length ≤ width := by
  rw [nameWidth, foldl_max_le_iff, List.forall_mem_map, and_iff_right (Nat.zero_le width)]

theorem Table.length_le_nameWidth {table : Table} {name : Text} (h : name ∈ table.names) :
    name.length ≤ table.nameWidth :=
  Nat.le_trans name.length_le_length_utf8 (nameWidth_le_iff.1 (Nat.le_refl _) name h)

/-! ## Names in brackets -/

/-- The names in the last brackets of a text, each after the first behind a comma and a space. -/
def namesInBrackets (t : Text) : List Text :=
  let inner := (afterLast '[' t).dropLast
  if inner = [] then []
  else
    let cut := Text.split ',' inner
    cut.1 :: cut.2.map (List.drop 1)

theorem intercalate_cons_eq (name : Text) (names : List Text) :
    [',', ' '].intercalate (name :: names) =
      name ++ (names.map (' ' :: ·)).flatMap (',' :: ·) := by
  induction names generalizing name with
  | nil => simp
  | cons next names ih => simp [List.intercalate_cons_cons, ih]

theorem not_mem_intercalate {names : List Text} {c : Char} (hcomma : c ≠ ',') (hspace : c ≠ ' ')
    (h : ∀ name ∈ names, c ∉ name) : c ∉ [',', ' '].intercalate names := by
  cases names with
  | nil => exact List.not_mem_nil
  | cons name names =>
      obtain ⟨hname, hnames⟩ := List.forall_mem_cons.1 h
      rw [intercalate_cons_eq]
      simpa [hname, hcomma, hspace] using hnames

/-- The names of wildcards are read back from the brackets, whatever stands in front of them. -/
theorem namesInBrackets_append (front : Text) {names : List Text}
    (h : ∀ name ∈ names, isWildcardName name = true) :
    namesInBrackets (front ++ '[' :: ([',', ' '].intercalate names ++ [']'])) = names := by
  have hbracket : '[' ∉ [',', ' '].intercalate names ++ [']'] := by
    refine fun hmem => (List.mem_append.1 hmem).elim ?_ (by decide)
    exact not_mem_intercalate (by decide) (by decide)
      fun name hname => not_mem_wildcardName (h name hname) (by decide)
  unfold namesInBrackets
  rw [afterLast_append front hbracket, List.dropLast_concat]
  cases names with
  | nil => rfl
  | cons name names =>
      obtain ⟨hname, hnames⟩ := List.forall_mem_cons.1 h
      have hne : [',', ' '].intercalate (name :: names) ≠ [] := by
        rw [intercalate_cons_eq]
        refine List.append_ne_nil_of_left_ne_nil ?_ _
        rintro rfl
        cases hname
      have hcommas : ∀ piece ∈ names.map (' ' :: ·), ',' ∉ piece := by
        refine List.forall_mem_map.2 fun next hnext => ?_
        simpa using not_mem_wildcardName (hnames next hnext) (c := ',') (by decide)
      simp only [if_neg hne]
      rw [intercalate_cons_eq,
        Text.split_flatMap (not_mem_wildcardName hname (by decide)) hcommas]
      simp [Function.comp_def]

/-- Brackets in front of the last ones are not read. -/
example : namesInBrackets "  éé  /[x]/{a}/{b...}  [a, b]".toList = [['a'], ['b']] := by decide

/-! ## Entries -/

/-- A text lists a route of a name, a pattern's text and the names of its wildcards: two spaces, the
name filled up with spaces to the width, two spaces, the text, two spaces, and the names of the
wildcards in brackets. -/
structure Entry (width : Nat) (name source : Text) (wildcards : List Text) (t : Text) : Prop where
  layout : t = "  ".toList ++ (name ++ List.replicate (width - name.length) ' ') ++ "  ".toList
    ++ source ++ "  ".toList ++ '[' :: ([',', ' '].intercalate wildcards ++ [']'])
  fits : name.length ≤ width
  /-- The text of the pattern starts behind the width and four spaces. -/
  aligned : source <+: t.drop (width + 4)
  /-- No name of a wildcard holds a character that stands between two of them or around them. -/
  separated : ∀ wildcard ∈ wildcards,
    ',' ∉ wildcard ∧ ' ' ∉ wildcard ∧ '[' ∉ wildcard ∧ ']' ∉ wildcard
  names_back : namesInBrackets t = wildcards

def Table.listingLine (width : Nat) (route : Text × Pattern) : Text :=
  "  ".toList ++ Text.padRight width route.1 ++ "  ".toList ++ route.2.source ++ "  ".toList
    ++ route.2.wildcardList

theorem source_prefix_drop {width : Nat} {route : Text × Pattern} (h : route.1.length ≤ width) :
    route.2.source <+: (Table.listingLine width route).drop (width + 4) := by
  have hlength : ("  ".toList ++ Text.padRight width route.1 ++ "  ".toList).length =
      width + 4 := by
    rw [List.length_append, List.length_append, Text.length_padRight h]
    show 2 + width + 2 = width + 4
    omega
  unfold Table.listingLine
  rw [List.append_assoc, List.append_assoc, ← hlength, List.drop_left]
  exact List.prefix_append _ _

theorem entry_listingLine {width : Nat} {route : Text × Pattern} (hfits : route.1.length ≤ width)
    (hnames : ∀ name ∈ route.2.wildcards, isWildcardName name = true) :
    Entry width route.1 route.2.source route.2.wildcards (Table.listingLine width route) where
  layout := rfl
  fits := hfits
  aligned := source_prefix_drop hfits
  separated := by
    intro name hname
    have hplain : ∀ {c : Char}, (Unicode.isAlphanumeric c || c == '_') = false → c ∉ name :=
      not_mem_wildcardName (hnames name hname)
    exact ⟨hplain (by decide), hplain (by decide), hplain (by decide), hplain (by decide)⟩
  names_back := namesInBrackets_append _ hnames

namespace Table

variable {file : Text} {table : Table}

def listingEntries (table : Table) : List Text :=
  table.toList.map (listingLine table.nameWidth)

theorem isWildcardName_of_mem_wildcards {read : Except FileFault Text}
    (h : ofFile file read = .ok table) {route : Text × Pattern} (hroute : route ∈ table.toList)
    {name : Text} (hname : name ∈ route.2.wildcards) : isWildcardName name = true := by
  have hget : table.get? route.1 = some route.2 := NameMap.mem_toList_iff.1 hroute
  exact Pattern.isWildcardName_of_mem_wildcards (rereads_of_ofFile h route.1 route.2 hget) hname

theorem forall₂_listingEntries {read : Except FileFault Text} (h : ofFile file read = .ok table) :
    List.Forall₂ (fun route => Entry table.nameWidth route.1 route.2.source route.2.wildcards)
      table.toList table.listingEntries := by
  rw [listingEntries, List.forall₂_map_right_iff, List.forall₂_same]
  intro route hroute
  have hmem : route.1 ∈ table.names := List.mem_map_of_mem hroute
  exact entry_listingLine (length_le_nameWidth hmem) fun name =>
    isWildcardName_of_mem_wildcards h hroute

/-! ## Printing the entries -/

open Printing (Ends)

theorem listingLine?_of_le {width : Nat} (h : width ≤ 65535) (route : Text × Pattern) :
    listingLine? width route = some (listingLine width route) := by
  rw [listingLine?, Text.column?, Text.widthLimit, if_pos h]
  rfl

theorem listingLine?_of_lt {width : Nat} (h : 65535 < width) (route : Text × Pattern) :
    listingLine? width route = none := by
  rw [listingLine?, Text.column?, Text.widthLimit, if_neg (Nat.not_le_of_lt h)]
  rfl

/-- Entries of a width that is not too large are printed one after another. -/
theorem ends_routes_of_le {width : Nat} (h : width ≤ 65535) (routes : List (Text × Pattern)) :
    Ends (routes.forM fun route => Printing.line? (listingLine? width route))
      ((routes.map (listingLine width)).flatMap (· ++ ['\n'])) (.ok ()) := by
  induction routes with
  | nil => exact Ends.nothing
  | cons route routes ih =>
      have hfirst : Ends (Printing.line? (listingLine? width route))
          (listingLine width route ++ ['\n']) (.ok ()) := by
        rw [listingLine?_of_le h]
        exact Ends.line _
      exact hfirst.seq ih

/-- If the width is too large, the first entry is not printed, and no other is tried. -/
theorem ends_routes_of_lt {width : Nat} (h : 65535 < width) {routes : List (Text × Pattern)}
    (hroutes : routes ≠ []) :
    Ends (routes.forM fun route => Printing.line? (listingLine? width route)) []
      (.error (.panic Printing.tooWide)) := by
  obtain ⟨route, later, rfl⟩ := List.exists_cons_of_ne_nil hroutes
  have hfirst : Ends (Printing.line? (listingLine? width route)) []
      (.error (.panic Printing.tooWide)) := by
    rw [listingLine?_of_lt h]
    exact Ends.giveUp
  exact hfirst.stopped _

section Check

variable {files : Files} (h : ofFile file (files.read file) = .ok table)

include h

theorem run_check : Command.run files (.check file) = (do
    Printing.line (table.listingHead file)
    table.toList.forM fun route => Printing.line? (listingLine? table.nameWidth route)) := by
  rw [Command.run, Command.readTable_eq h, Printing.check_ok_bind]

theorem ofRun_check_of_all_fit (hfit : table.nameWidth ≤ 65535) :
    Outcome.ofRun (Command.run files (.check file)) =
      { exitCode := 0,
        stdout := (table.listingHead file :: table.listingEntries).flatMap (· ++ ['\n']),
        stderr := [] } := by
  rw [run_check h]
  exact Outcome.ofRun_of_ends ((Ends.line _).seq (ends_routes_of_le hfit table.toList))

theorem ofRun_check_of_too_wide (hwide : 65535 < table.nameWidth) :
    Outcome.ofRun (Command.run files (.check file)) =
      Outcome.ofEnd (table.listingHead file ++ ['\n']) (.error (.panic Printing.tooWide)) := by
  have hroutes : table.toList ≠ [] := by
    intro hnone
    have hnames : table.names = [] := congrArg (List.map Prod.fst) hnone
    have hwidth : table.nameWidth ≤ 0 := nameWidth_le_iff.2 (by simp [hnames])
    omega
  have hends := (Ends.line (table.listingHead file)).seq (ends_routes_of_lt hwide hroutes)
  rw [List.append_nil] at hends
  rw [run_check h]
  exact Outcome.ofRun_of_ends hends

end Check

/-- What is printed of a table lists its routes: a first line with the number of the entries, and
the entries, one for each route, in ascending order of the names. All have one width for the names,
and the wildcards are named in the order in which they stand in the pattern. -/
def IsListed (file : Text) (table : Table) (outcome : Outcome) : Prop :=
  ∃ entries width,
    outcome =
      { exitCode := 0,
        stdout := (("✓ ".toList ++ file ++ " (".toList ++ Text.ofNat entries.length
          ++ " routes)".toList) :: entries).flatMap (· ++ ['\n']),
        stderr := [] } ∧
    (∀ name pattern, (name, pattern) ∈ table.toList ↔ table.get? name = some pattern) ∧
    (table.toList.map fun route => Text.utf8 route.1).Pairwise (· < ·) ∧
    List.Forall₂ (fun route => Entry width route.1 route.2.source
      (route.2.segments.filterMap Segment.name?)) table.toList entries

theorem isListed_of_all_fit {files : Files} (h : ofFile file (files.read file) = .ok table)
    (hfit : table.nameWidth ≤ 65535) :
    IsListed file table (Outcome.ofRun (Command.run files (.check file))) := by
  refine ⟨table.listingEntries, table.nameWidth, ?_, ?_, ?_, forall₂_listingEntries h⟩
  · rw [ofRun_check_of_all_fit h hfit, listingEntries, List.length_map]
    rfl
  · exact fun name pattern => NameMap.mem_toList_iff
  · have hascending := table.ascending_names
    unfold NameMap.names at hascending
    rw [List.map_map] at hascending
    exact hascending

theorem not_isListed_of_too_wide {files : Files} (h : ofFile file (files.read file) = .ok table)
    (hwide : 65535 < table.nameWidth) :
    ¬ IsListed file table (Outcome.ofRun (Command.run files (.check file))) := by
  rintro ⟨entries, width, hrun, -⟩
  rw [ofRun_check_of_too_wide h hwide] at hrun
  have hcode : 101 = 0 := congrArg Outcome.exitCode hrun
  exact absurd hcode (by decide)

/-- **The listing of a table has an entry for each route, unless a name is too long.** What is
printed for a file with a table lists its routes (`IsListed`): no name exceeds the width, so that
the text of the pattern starts in the same column of each entry, and the names of the wildcards are
read back from the brackets. It does so if and only if no name has more than 65535 bytes. If one
has, only the first line is printed, and the program gives up. -/
theorem listing_has_aligned_entries {files : Files}
    (h : ofFile file (files.read file) = .ok table) :
    (IsListed file table (Outcome.ofRun (Command.run files (.check file))) ↔
      ∀ name ∈ table.names, (Text.utf8 name).length ≤ 65535) ∧
    ((∃ name ∈ table.names, 65535 < (Text.utf8 name).length) →
      (Outcome.ofRun (Command.run files (.check file))).exitCode = 101 ∧
      (Outcome.ofRun (Command.run files (.check file))).stdout =
        "✓ ".toList ++ file ++ " (".toList ++ Text.ofNat table.toList.length
          ++ " routes)\n".toList) := by
  rw [← nameWidth_le_iff]
  refine ⟨⟨?_, isListed_of_all_fit h⟩, ?_⟩
  · exact fun hlisted => Nat.le_of_not_lt fun hwide => not_isListed_of_too_wide h hwide hlisted
  · rintro ⟨name, hname, hlong⟩
    have hwide : 65535 < table.nameWidth :=
      Nat.lt_of_lt_of_le hlong (nameWidth_le_iff.1 (Nat.le_refl _) name hname)
    rw [ofRun_check_of_too_wide h hwide, Outcome.stdout_ofEnd, listingHead, List.append_assoc]
    exact ⟨rfl, rfl⟩

/-- Every file holds two routes, whose names have as many bytes as each other, but not as many
characters. -/
def mixedFiles : Files where
  read _ := .ok "[routes]\n\"éé\" = '/[x]/{a}/{b...}'\nlong = '/[x]/{a}/{b...}'\n".toList
  tomlFault _ := []

/-- A pattern with brackets that are no syntax. -/
def bracketed : Pattern where
  source := "/[x]/{a}/{b...}".toList
  method := none
  host := none
  segments := [.literal "[x]".toList, .single ['a'], .rest ['b']]

/-- The routes in the order of their names. -/
def mixedRoutes : List (Text × Pattern) :=
  [("long".toList, bracketed), ("éé".toList, bracketed)]

theorem listing_has_aligned_entries_mixed :
    IsListed ['f'] (.ofList mixedRoutes)
      (Outcome.ofRun (Command.run mixedFiles (.check ['f']))) ∧
    (Outcome.ofRun (Command.run mixedFiles (.check ['f']))).stdout =
      ("✓ f (2 routes)\n".toList
        ++ "  long  /[x]/{a}/{b...}  [a, b]\n".toList
        ++ "  éé    /[x]/{a}/{b...}  [a, b]\n".toList) := by
  have htable : ofFile ['f'] (mixedFiles.read ['f']) = .ok (.ofList mixedRoutes) := by
    decide +kernel
  refine ⟨(listing_has_aligned_entries htable).1.2 (by decide +kernel), ?_⟩
  decide +kernel

def root : Pattern where
  source := ['/']
  method := none
  host := none
  segments := [.literal []]

/-- Every file holds one route, with a name of so many letters. -/
def longFiles (count : Nat) : Files where
  read _ := .ok (Toml.oneRoute (List.replicate count 'a') ['/'])
  tomlFault _ := []

theorem ofFile_longFiles (file : Text) {count : Nat} (h : count ≠ 0) :
    ofFile file ((longFiles count).read file) =
      .ok (.ofList [(List.replicate count 'a', root)]) := by
  have hname : List.replicate count 'a' ≠ [] := by simpa using h
  have hbare : ∀ c ∈ List.replicate count 'a', Toml.isBare c = true := by
    intro c hc
    rw [List.eq_of_mem_replicate hc]
    decide
  have hslash : Toml.IsLiteral ['/'] := List.forall_mem_singleton.2 ⟨by decide, by decide⟩
  exact ofToml_oneRoute hname hbare hslash rfl

theorem length_le_nameWidth_ofList (name : Text) (pattern : Pattern) :
    name.length ≤ nameWidth (.ofList [(name, pattern)]) := by
  have hmem : name ∈ (NameMap.ofList [(name, pattern)]).names := List.mem_cons_self
  exact length_le_nameWidth hmem

theorem listing_stops_at_wide_name :
    ofFile ['f'] ((longFiles 65536).read ['f']) =
      .ok (.ofList [(List.replicate 65536 'a', root)]) ∧
    (Outcome.ofRun (Command.run (longFiles 65536) (.check ['f']))).exitCode = 101 ∧
    (Outcome.ofRun (Command.run (longFiles 65536) (.check ['f']))).stdout =
      "✓ f (1 routes)\n".toList ∧
    ¬ IsListed ['f'] (.ofList [(List.replicate 65536 'a', root)])
      (Outcome.ofRun (Command.run (longFiles 65536) (.check ['f']))) := by
  have htable := ofFile_longFiles ['f'] (show 65536 ≠ 0 by decide)
  have hwide : 65535 < nameWidth (.ofList [(List.replicate 65536 'a', root)]) := by
    have hlength := length_le_nameWidth_ofList (List.replicate 65536 'a') root
    rw [List.length_replicate] at hlength
    exact hlength
  refine ⟨htable, ?_, ?_, not_isListed_of_too_wide htable hwide⟩
  · rw [ofRun_check_of_too_wide htable hwide]
    rfl
  · rw [ofRun_check_of_too_wide htable hwide, Outcome.stdout_ofEnd]
    rfl

end Table

end RoutePattern
