import RoutePattern.Proofs.Naming
import RoutePattern.Proofs.Printing
import RoutePattern.Proofs.Reloading
import RoutePattern.Proofs.WrittenForm

/-!
# Reversal on the command line

A route is reversed from its table with values in order or by name, or from its source text alone,
and each of these calls prints the same path (`url_and_build_print_alike`). Values by name come as
one argument each, cut at its first equals sign. No wildcard name holds one, so that a value may
(`mapM_readParam`).
-/

namespace RoutePattern

namespace Command

/-! ## Arguments that give values to names -/

def paramOf (pair : Text × Text) : Text :=
  pair.1 ++ '=' :: pair.2

theorem readParam_paramOf {pair : Text × Text} (h : '=' ∉ pair.1) :
    readParam (paramOf pair) = .ok pair := by
  rw [readParam, paramOf, Text.cut?_append '=' pair.2 h]

theorem mapM_readParam {pairs : List (Text × Text)} (h : ∀ pair ∈ pairs, '=' ∉ pair.1) :
    (pairs.map paramOf).mapM readParam = .ok pairs := by
  induction pairs with
  | nil => rfl
  | cons pair pairs ih =>
      obtain ⟨hpair, hlater⟩ := List.forall_mem_cons.1 h
      rw [List.map_cons, List.mapM_cons, readParam_paramOf hpair, ih hlater]
      rfl

theorem equals_not_mem_of_perm {source : Text} {pattern : Pattern} {values : List Text}
    (hparse : Pattern.parse source = .ok pattern) {pairs : List (Text × Text)}
    (hperm : pairs.Perm (pattern.wildcards.zip values)) : ∀ pair ∈ pairs, '=' ∉ pair.1 := by
  intro pair hpair
  have hname : pair.1 ∈ pattern.wildcards := (List.of_mem_zip (hperm.mem_iff.1 hpair)).1
  have hwildcard := Pattern.isWildcardName_of_mem_wildcards hparse hname
  exact not_mem_wildcardName hwildcard (by decide)

/-! ## What the calls print -/

section Calls

variable {files : Files} {file : Text} {table : Table}

theorem readTable_eq (h : Table.ofFile file (files.read file) = .ok table) :
    readTable files file = .ok table := by
  rw [readTable, h]
  rfl

/-- Once there is a table, a call for the path of a route only has to find the path. -/
theorem run_url_of_table (htable : readTable files file = .ok table) (name : Text)
    (values params : List Text) : run files (.url file name values params) =
      (Printing.check (routeUrl files table name values params) >>= Printing.line) := by
  rw [run, htable, Printing.check_ok_bind]

theorem routeUrl_of_values (files : Files) (table : Table) (name : Text) (values : List Text) :
    routeUrl files table name values [] =
      (table.urlFor name values).mapError (Report.ofTableError files.tomlFault) :=
  rfl

theorem routeUrl_of_params (files : Files) (table : Table) (name : Text) (values : List Text)
    {params : List Text} (hparams : params ≠ []) {pairs : List (Text × Text)}
    (hpairs : params.mapM readParam = .ok pairs) : routeUrl files table name values params =
      (table.urlForParams name pairs).mapError (Report.ofTableError files.tomlFault) := by
  rw [routeUrl, if_neg hparams, hpairs]
  rfl

theorem run_build {source : Text} {pattern : Pattern} (hparse : Pattern.parse source = .ok pattern)
    (values : List Text) : run files (.build source values) =
      (Printing.check ((pattern.build values).mapError Report.ofBuildError) >>=
        Printing.line) := by
  rw [run, readPattern_eq hparse, Printing.check_ok_bind]

end Calls

end Command

namespace Outcome

def line (printed : Text) : Outcome where
  exitCode := 0
  stdout := printed ++ ['\n']
  stderr := []

theorem ofRun_check_line {checked : Except Report Text} {url : Text} (h : checked = .ok url) :
    ofRun (Printing.check checked >>= Printing.line) = line url := by
  rw [h, Printing.check_ok_bind]
  exact ofRun_line url

section Agreement

variable {files : Files} {file name url : Text} {table : Table} {pattern : Pattern}
  {values : List Text}

theorem run_url_of_build (htable : Table.ofFile file (files.read file) = .ok table)
    (hget : table.get? name = some pattern) (hbuild : pattern.build values = .ok url) :
    ofRun (Command.run files (.url file name values [])) = line url := by
  rw [Command.run_url_of_table (Command.readTable_eq htable), Command.routeUrl_of_values]
  apply ofRun_check_line
  rw [Table.urlFor_of_get?_eq_some hget, hbuild]
  rfl

theorem run_url_of_buildNamed (htable : Table.ofFile file (files.read file) = .ok table)
    (hget : table.get? name = some pattern) {pairs : List (Text × Text)} (hpairs : pairs ≠ [])
    (hequals : ∀ pair ∈ pairs, '=' ∉ pair.1)
    (hbuild : pattern.buildNamed (NameMap.ofList pairs) = .ok url) :
    ofRun (Command.run files (.url file name [] (pairs.map Command.paramOf))) = line url := by
  have hparams : pairs.map Command.paramOf ≠ [] := by simpa using hpairs
  rw [Command.run_url_of_table (Command.readTable_eq htable),
    Command.routeUrl_of_params files table name [] hparams (Command.mapM_readParam hequals)]
  apply ofRun_check_line
  rw [Table.urlForParams_of_get?_eq_some hget, hbuild]
  rfl

theorem run_build_of_build {source : Text} (hparse : Pattern.parse source = .ok pattern)
    (hbuild : pattern.build values = .ok url) :
    ofRun (Command.run files (.build source values)) = line url := by
  rw [Command.run_build hparse]
  apply ofRun_check_line
  rw [hbuild]
  rfl

/-- **The ways of reversing a route agree.** For a route of a table in a file, and values for its
wildcards that agree on equal names, three calls succeed and print the same line, the path that the
values build: with the values in order, with an argument for each wildcard and its value, in any
order, and with the source text in place of the table. The values may hold anything. -/
theorem url_and_build_print_alike (htable : Table.ofFile file (files.read file) = .ok table)
    (hget : table.get? name = some pattern) (hlength : values.length = pattern.arity.required)
    (hconsistent : Pattern.Consistent pattern.wildcards values) :
    ∃ url, pattern.build values = .ok url ∧
      ofRun (Command.run files (.url file name values [])) = line url ∧
      (∀ pairs : List (Text × Text), pairs.Perm (pattern.wildcards.zip values) →
        ofRun (Command.run files (.url file name [] (pairs.map Command.paramOf))) = line url) ∧
      ofRun (Command.run files (.build pattern.source values)) = line url := by
  have hparse := Table.rereads_of_ofFile htable name pattern hget
  have hcount : pattern.wildcards.length = values.length := by
    rw [Pattern.length_wildcards, hlength]
  obtain ⟨url, hbuild, -⟩ :=
    Pattern.build_eq_buildNamed_of_lookups (hconsistent.get?_ofList_zip hcount)
  refine ⟨url, hbuild, run_url_of_build htable hget hbuild, ?_, run_build_of_build hparse hbuild⟩
  intro pairs hperm
  by_cases hpairs : pairs = []
  · -- Without wildcards there are no arguments, and the call is one with no values in order.
    have hzip := hperm.length_eq
    rw [hpairs, List.length_nil, List.length_zip, hcount, Nat.min_self] at hzip
    have hvalues : values = [] := List.length_eq_zero_iff.1 hzip.symm
    subst hpairs hvalues
    exact run_url_of_build htable hget hbuild
  · obtain ⟨url', hbuild', hnamed⟩ := Pattern.build_eq_buildNamed_of_lookups
      (hconsistent.get?_ofList_of_perm hcount hperm)
    obtain rfl := Except.ok.inj (hbuild'.symm.trans hbuild)
    exact run_url_of_buildNamed htable hget hpairs (Command.equals_not_mem_of_perm hparse hperm)
      hnamed

end Agreement

/-- Every file holds one route, with a name that stands twice and a trailing slash. -/
def servedFiles : Files where
  read _ := .ok "[routes]\n\"r.1\" = 'GET h/{a}/{b}/{a}/'\n".toList
  tomlFault _ := []

def twiceNamed : Pattern where
  source := "GET h/{a}/{b}/{a}/".toList
  method := some "GET".toList
  host := some ['h']
  segments := [.single ['a'], .single ['b'], .single ['a'], .literal []]

theorem url_and_build_print_alike_twiceNamed :
    ∃ url, twiceNamed.build ["=/".toList, [], "=/".toList] = .ok url ∧
      ofRun (Command.run servedFiles
        (.url ['f'] "r.1".toList ["=/".toList, [], "=/".toList] [])) = line url ∧
      ofRun (Command.run servedFiles
        (.url ['f'] "r.1".toList [] ["b=".toList, "a==/".toList, "a==/".toList])) = line url ∧
      ofRun (Command.run servedFiles
        (.build twiceNamed.source ["=/".toList, [], "=/".toList])) = line url := by
  have htable : Table.ofFile ['f'] (servedFiles.read ['f']) =
      .ok (.ofList [("r.1".toList, twiceNamed)]) := by decide +kernel
  have hget : (NameMap.ofList [("r.1".toList, twiceNamed)]).get? "r.1".toList =
      some twiceNamed := rfl
  have hconsistent : Pattern.Consistent twiceNamed.wildcards ["=/".toList, [], "=/".toList] :=
    Pattern.consistent_map twiceNamed.wildcards fun name =>
      if name = ['a'] then "=/".toList else []
  obtain ⟨url, hbuild, hvalues, hparams, hsource⟩ :=
    url_and_build_print_alike htable hget rfl hconsistent
  refine ⟨url, hbuild, hvalues, ?_, hsource⟩
  exact hparams [(['b'], []), (['a'], "=/".toList), (['a'], "=/".toList)] (List.Perm.swap _ _ _)

end Outcome

end RoutePattern
