import RoutePattern.Proofs.CommandReversal
import RoutePattern.Proofs.Layout
import RoutePattern.Proofs.Loading
import RoutePattern.Proofs.Quoting

/-!
# The answer to a call for a path

Several things can be wrong with a call for the path of a route, and one of them is reported. The
answers are written down as rules (`UrlAnswer`), with all that is printed, and each of them says of
what comes before it that it is in order: the file, the texts in it, the arguments that give values
to names, the route, the values. For every call one rule applies, and it gives what the call comes
to (`url_answers_first_fault`).
-/

namespace RoutePattern

namespace Outcome

/-! ## What is printed -/

def failed (message : Text) : Outcome where
  exitCode := 1
  stdout := []
  stderr := "Error: ".toList ++ message ++ ['\n']

/-- The lines of a text one below another, all but the first behind a margin of seven spaces. -/
def indented (t : Text) : Text :=
  "\n       ".toList.intercalate (Text.pieces t)

/-- A run that fails because a file holds no table: the report goes on with what could not be done
to the table, and with the cause of that. -/
def invalidTable (file fault cause : Text) : Outcome where
  exitCode := 1
  stdout := []
  stderr := "Error: ".toList ++ "route table ".toList ++ file ++ " is invalid".toList
    ++ "\n\nCaused by:".toList ++ "\n    0: ".toList ++ indented fault
    ++ "\n    1: ".toList ++ indented cause ++ ['\n']

def refusal : PatternError → Text
  | .endAnchorNotLast raw =>
    "invalid pattern \"".toList ++ raw ++ "\": ".toList ++ ['{', '$', '}']
      ++ " must be the last segment".toList
  | .restNotLast raw name =>
    "invalid pattern \"".toList ++ raw ++ "\": ".toList
      ++ '{' :: (name ++ (['.', '.', '.'] ++ ['}'])) ++ " must be the last segment".toList

def built : Except BuildError Text → Outcome
  | .ok url => line url
  | .error (.notEnough raw expected) =>
    failed ("not enough values for pattern \"".toList ++ raw ++ "\", expect at least: ".toList
      ++ Text.ofNat expected)
  | .error (.tooMany raw got used) =>
    failed ("too many values for pattern \"".toList ++ raw ++ "\", got: ".toList
      ++ Text.ofNat got ++ ", used: ".toList ++ Text.ofNat used)
  | .error (.missingValue raw name) =>
    failed ("missing value for wildcard \"".toList ++ name ++ "\" in pattern \"".toList ++ raw
      ++ "\"".toList)

end Outcome

namespace Command

open Outcome (failed invalidTable refusal built)

/-! ## Rules -/

/-- Each argument gives a value to a name: the name, an equals sign and the value. No name holds an
equals sign, so that the first one of an argument ends the name. -/
structure Gives (params : List Text) (pairs : List (Text × Text)) : Prop where
  params_eq : params = pairs.map paramOf
  names : ∀ pair ∈ pairs, '=' ∉ pair.1

/-- What a call for the path of a route comes to, with all that is printed. -/
inductive UrlAnswer (files : Files) (file name : Text) (values params : List Text) :
    Outcome → Prop
  /-- The system does not give the file. -/
  | unreadable {number : Nat} {words : Text}
      (hfile : files.read file = .error (.system number words)) :
      UrlAnswer files file name values params
        (invalidTable file ("failed to read route table ".toList ++ file)
          (words ++ " (os error ".toList ++ Text.ofNat number ++ [')']))
  /-- The file cannot be read for another reason. -/
  | refused {words : Text} (hfile : files.read file = .error (.other words)) :
      UrlAnswer files file name values params
        (invalidTable file ("failed to read route table ".toList ++ file) words)
  /-- The file is no text. -/
  | notText (hfile : files.read file = .error .notText) :
      UrlAnswer files file name values params
        (invalidTable file ("failed to read route table ".toList ++ file)
          "stream did not contain valid UTF-8".toList)
  /-- The text of the file lists no texts, and the TOML reader says why. -/
  | malformed {document : Text} (hfile : files.read file = .ok document)
      (hdocument : Toml.routes? document = none) :
      UrlAnswer files file name values params
        (invalidTable file ("failed to parse route table: ".toList ++ files.tomlFault document)
          (files.tomlFault document))
  /-- Of the texts that the file lists and that are no patterns, this one has the least name. -/
  | invalidRoute {document route : Text} {texts : NameMap Text} {source : PatternError}
      (hfile : files.read file = .ok document) (hdocument : Toml.routes? document = some texts)
      (hroute : Table.LeastRefused texts route source) :
      UrlAnswer files file name values params
        (invalidTable file ("route \"".toList ++ route ++ "\" has an invalid pattern".toList)
          (refusal source))
  /-- There is a table, and this is the first argument without an equals sign. -/
  | noPair {table : Table} {param : Text} {front later : List Text}
      (htable : Table.ofFile file (files.read file) = .ok table)
      (hparams : params = front ++ param :: later) (hfront : ∀ earlier ∈ front, '=' ∈ earlier)
      (hparam : '=' ∉ param) :
      UrlAnswer files file name values params
        (failed ("expected KEY=VALUE, got ".toList ++ Text.quoted param))
  /-- There is a table without the route, and all arguments have an equals sign. -/
  | unknownRoute {table : Table} (htable : Table.ofFile file (files.read file) = .ok table)
      (hparams : ∀ param ∈ params, '=' ∈ param) (hname : table.get? name = none) :
      UrlAnswer files file name values params
        (failed ("no route named \"".toList ++ name ++ "\"".toList))
  /-- There is a table with the route, and no argument: the values are placed in order. -/
  | inOrder {table : Table} {pattern : Pattern}
      (htable : Table.ofFile file (files.read file) = .ok table) (hparams : params = [])
      (hname : table.get? name = some pattern) :
      UrlAnswer files file name values params (built (pattern.build values))
  /-- There is a table with the route, and the arguments give values to names: the last value of
  each name is placed. -/
  | byName {table : Table} {pattern : Pattern} {pairs : List (Text × Text)}
      {assigned : NameMap Text} (htable : Table.ofFile file (files.read file) = .ok table)
      (hparams : params ≠ []) (hpairs : Gives params pairs)
      (hassigned : ∀ key, assigned.get? key = NameMap.lastValue? key pairs)
      (hname : table.get? name = some pattern) :
      UrlAnswer files file name values params (built (pattern.buildNamed assigned))

/-! ## Arguments -/

theorem exists_gives {params : List Text} (h : ∀ param ∈ params, '=' ∈ param) :
    ∃ pairs, Gives params pairs := by
  induction params with
  | nil => exact ⟨[], rfl, nofun⟩
  | cons param params ih =>
      obtain ⟨hparam, hlater⟩ := List.forall_mem_cons.1 h
      obtain ⟨pairs, rfl, hnames⟩ := ih hlater
      cases hcut : Text.cut? '=' param with
      | none => exact absurd hparam (Text.cut?_eq_none_iff.1 hcut)
      | some pair =>
          obtain ⟨rfl, hname⟩ := Text.eq_append_of_cut? hcut
          exact ⟨pair :: pairs, rfl, List.forall_mem_cons.2 ⟨hname, hnames⟩⟩

theorem Gives.mapM_readParam {params : List Text} {pairs : List (Text × Text)}
    (h : Gives params pairs) : params.mapM readParam = .ok pairs := by
  rw [h.params_eq, Command.mapM_readParam h.names]

theorem readParam_of_not_mem {param : Text} (h : '=' ∉ param) :
    readParam param = .error (Report.ofParam param) := by
  rw [readParam, Text.cut?_eq_none_iff.2 h]

/-- The first argument without an equals sign is reported. -/
theorem mapM_readParam_of_first {front later : List Text} {param : Text}
    (hfront : ∀ earlier ∈ front, '=' ∈ earlier) (hparam : '=' ∉ param) :
    (front ++ param :: later).mapM readParam = .error (Report.ofParam param) := by
  obtain ⟨pairs, hpairs⟩ := exists_gives hfront
  rw [List.mapM_append, hpairs.mapM_readParam, List.mapM_cons, readParam_of_not_mem hparam]
  rfl

theorem all_or_first (params : List Text) :
    (∀ param ∈ params, '=' ∈ param) ∨
    ∃ front param later, params = front ++ param :: later ∧
      (∀ earlier ∈ front, '=' ∈ earlier) ∧ '=' ∉ param := by
  cases hfind : params.find? fun param => !decide ('=' ∈ param) with
  | none => exact Or.inl (by simpa using hfind)
  | some param =>
      obtain ⟨hparam, front, later, hparams, hfront⟩ := List.find?_eq_some_iff_append.1 hfind
      exact Or.inr ⟨front, param, later, hparams, by simpa using hfront, by simpa using hparam⟩

/-! ## Reports -/

section Reports

variable (tomlFault : Text → Text)

theorem ofEnd_report (headline : Text) :
    Outcome.ofEnd [] (.error (.report { headline, causes := [] })) = failed headline := by
  have htext : ({ headline, causes := [] } : Report).text =
      "Error: ".toList ++ headline ++ [] ++ ['\n'] := rfl
  rw [Outcome.ofEnd, htext, List.append_nil]
  rfl

theorem numberedCause_eq (cause : Text) (number : Nat) :
    Report.numberedCause (cause, number) =
      '\n' :: Text.padLeft 5 (Text.ofNat number) ++ ": ".toList ++ Outcome.indented cause := by
  rw [Report.numberedCause, Text.indentLater_eq_intercalate]
  rfl

theorem text_two_causes (headline fault cause : Text) :
    ({ headline, causes := [fault, cause] } : Report).text =
      "Error: ".toList ++ headline ++ "\n\nCaused by:".toList ++ "\n    0: ".toList
        ++ Outcome.indented fault ++ "\n    1: ".toList ++ Outcome.indented cause ++ ['\n'] := by
  have hcauses : Report.causesText [fault, cause] =
      "\n\nCaused by:".toList ++ [(fault, 0), (cause, 1)].flatMap Report.numberedCause := rfl
  have hfirst : '\n' :: Text.padLeft 5 (Text.ofNat 0) ++ ": ".toList = "\n    0: ".toList := by
    decide
  have hsecond : '\n' :: Text.padLeft 5 (Text.ofNat 1) ++ ": ".toList = "\n    1: ".toList := by
    decide
  unfold Report.text
  rw [hcauses, List.flatMap_cons, List.flatMap_cons, List.flatMap_nil, numberedCause_eq,
    numberedCause_eq, hfirst, hsecond]
  simp only [List.append_assoc, List.append_nil]

/-- The report about a table names the file, what could not be done and why. -/
theorem ofEnd_invalidTable {file fault cause : Text} {error : TableError}
    (hfault : error.message tomlFault = fault) (hcause : error.cause? tomlFault = some cause) :
    Outcome.ofEnd [] (.error (.report (Report.ofInvalidTable tomlFault file error))) =
      invalidTable file fault cause := by
  have hreport : Report.ofInvalidTable tomlFault file error =
      { headline := "route table ".toList ++ file ++ " is invalid".toList,
        causes := [fault, cause] } := by
    unfold Report.ofInvalidTable
    rw [hfault, hcause, Option.toList_some]
  rw [hreport, Outcome.ofEnd, text_two_causes, invalidTable]
  simp only [List.append_assoc]

theorem message_eq_refusal (source : PatternError) : source.message = refusal source := by
  cases source with
  | endAnchorNotLast raw => rfl
  | restNotLast raw name => rfl

theorem ofEnd_build (error : BuildError) :
    Outcome.ofEnd [] (.error (.report (Report.ofTableError tomlFault (.build error)))) =
      built (.error error) := by
  have hreport : Report.ofTableError tomlFault (.build error) =
      { headline := error.message, causes := [] } := rfl
  rw [hreport, ofEnd_report]
  cases error with
  | notEnough raw expected => rfl
  | tooMany raw got used => rfl
  | missingValue raw name => rfl

end Reports

/-! ## One rule for every call -/

section Calls

variable {files : Files} {file name : Text} {values params : List Text} {outcome : Outcome}

theorem ofRun_url_of_invalidTable {error : TableError}
    (h : Table.ofFile file (files.read file) = .error error) {fault cause : Text}
    (hfault : error.message files.tomlFault = fault)
    (hcause : error.cause? files.tomlFault = some cause) :
    Outcome.ofRun (run files (.url file name values params)) = invalidTable file fault cause := by
  have hread : readTable files file =
      .error (Report.ofInvalidTable files.tomlFault file error) := by
    rw [readTable, h]
    rfl
  rw [run, hread, Outcome.ofRun_check_error]
  exact ofEnd_invalidTable files.tomlFault hfault hcause

theorem ofRun_url_of_noPath {table : Table} (htable : readTable files file = .ok table)
    {headline : Text} (h : routeUrl files table name values params =
      .error { headline, causes := [] }) :
    Outcome.ofRun (run files (.url file name values params)) = failed headline := by
  rw [run_url_of_table htable, h, Outcome.ofRun_check_error, ofEnd_report]

theorem routeUrl_of_refused (files : Files) (table : Table) (name : Text) (values : List Text)
    (hparams : params ≠ []) {report : Report} (hreport : params.mapM readParam = .error report) :
    routeUrl files table name values params = .error report := by
  rw [routeUrl, if_neg hparams, hreport]
  rfl

theorem ofRun_built (tomlFault : Text → Text) (result : Except BuildError Text) :
    Outcome.ofRun (Printing.check ((result.mapError TableError.build).mapError
      (Report.ofTableError tomlFault)) >>= Printing.line) = built result := by
  cases result with
  | ok url => exact Outcome.ofRun_line url
  | error error => exact ofEnd_build tomlFault error

/-- A file without a table has one of the faults that come first. -/
theorem exists_urlAnswer_of_error {error : TableError}
    (h : Table.ofFile file (files.read file) = .error error) :
    ∃ outcome, UrlAnswer files file name values params outcome := by
  cases hfile : files.read file with
  | error fault =>
      cases fault with
      | system number words => exact ⟨_, .unreadable hfile⟩
      | other words => exact ⟨_, .refused hfile⟩
      | notText => exact ⟨_, .notText hfile⟩
  | ok document =>
      cases hdocument : Toml.routes? document with
      | none => exact ⟨_, .malformed hfile hdocument⟩
      | some texts =>
          rw [hfile, Table.ofFile, Table.ofToml_eq_ofTexts hdocument] at h
          obtain ⟨route, source, hroute, -⟩ := (Table.loadsWhole_ofTexts texts).fails_iff.1 h
          exact ⟨_, .invalidRoute hfile hdocument hroute⟩

theorem exists_urlAnswer (files : Files) (file name : Text) (values params : List Text) :
    ∃ outcome, UrlAnswer files file name values params outcome := by
  cases htable : Table.ofFile file (files.read file) with
  | error error => exact exists_urlAnswer_of_error htable
  | ok table =>
      rcases all_or_first params with hall | ⟨front, param, later, hparams, hfront, hparam⟩
      · cases hname : table.get? name with
        | none => exact ⟨_, .unknownRoute htable hall hname⟩
        | some pattern =>
            by_cases hparams : params = []
            · exact ⟨_, .inOrder htable hparams hname⟩
            · obtain ⟨pairs, hpairs⟩ := exists_gives hall
              exact ⟨_, .byName htable hparams hpairs
                (NameMap.get?_ofList_eq_lastValue? pairs) hname⟩
      · exact ⟨_, .noPair htable hparams hfront hparam⟩

theorem UrlAnswer.ofRun_eq (h : UrlAnswer files file name values params outcome) :
    Outcome.ofRun (run files (.url file name values params)) = outcome := by
  cases h with
  | unreadable hfile | refused hfile | notText hfile =>
      apply ofRun_url_of_invalidTable
      · rw [hfile, Table.ofFile]
      · rfl
      · rfl
  | malformed hfile hdocument =>
      apply ofRun_url_of_invalidTable
      · rw [hfile, Table.ofFile, Table.ofToml_eq_malformed_iff.2 hdocument]
      · rfl
      · rfl
  | invalidRoute hfile hdocument hroute =>
      rename_i document route texts source
      have hrefused : Table.ofTexts texts = .error (.invalidRoute route source) :=
        (Table.loadsWhole_ofTexts texts).fails_iff.2 ⟨route, source, hroute, rfl⟩
      apply ofRun_url_of_invalidTable
      · rw [hfile, Table.ofFile, Table.ofToml_eq_ofTexts hdocument, hrefused]
      · rfl
      · exact congrArg some (message_eq_refusal source)
  | noPair htable hparams hfront hparam =>
      subst hparams
      apply ofRun_url_of_noPath (readTable_eq htable)
      exact routeUrl_of_refused files _ name values (by simp)
        (mapM_readParam_of_first hfront hparam)
  | unknownRoute htable hparams hname =>
      obtain ⟨pairs, hpairs⟩ := exists_gives hparams
      apply ofRun_url_of_noPath (readTable_eq htable)
      by_cases hne : params = []
      · subst hne
        rw [routeUrl_of_values, Table.urlFor_of_get?_eq_none hname]
        rfl
      · rw [routeUrl_of_params files _ name values hne hpairs.mapM_readParam,
          Table.urlForParams_of_get?_eq_none hname]
        rfl
  | inOrder htable hparams hname =>
      subst hparams
      rw [run_url_of_table (readTable_eq htable), routeUrl_of_values,
        Table.urlFor_of_get?_eq_some hname, ofRun_built]
  | byName htable hparams hpairs hassigned hname =>
      rename_i table pattern pairs assigned
      have heq : assigned = NameMap.ofList pairs := by
        apply NameMap.ext_get?
        intro key
        rw [hassigned, NameMap.get?_ofList_eq_lastValue?]
      rw [run_url_of_table (readTable_eq htable),
        routeUrl_of_params files table name values hparams hpairs.mapM_readParam,
        Table.urlForParams_of_get?_eq_some hname, ofRun_built, heq]

theorem urlAnswer_iff : UrlAnswer files file name values params outcome ↔
    outcome = Outcome.ofRun (run files (.url file name values params)) := by
  constructor
  · intro h
    exact h.ofRun_eq.symm
  · rintro rfl
    -- Some rule applies, and what it gives is what the call comes to.
    obtain ⟨outcome, h⟩ := exists_urlAnswer files file name values params
    rw [h.ofRun_eq]
    exact h

end Calls

/-- **The first fault is reported, and nothing is printed beside it.** A call for the path of a
route comes to what the one rule says that applies to it: of several faults the first is reported,
in the order of the file, the texts in it, the arguments, the route and the values, and the path is
printed if there is none. An argument without an equals sign is shown in quotes, from which it is
read back, and a plain one with nothing escaped but quotes and backslashes. Whatever command fails
with a report has no output, because its course of action has printed nothing by then. -/
theorem url_answers_first_fault (files : Files) :
    (∀ file name values params outcome, UrlAnswer files file name values params outcome ↔
      outcome = Outcome.ofRun (run files (.url file name values params))) ∧
    (∀ param, Text.readQuoted? (Text.quoted param) = some param) ∧
    (∀ param, Text.IsPlain param → Text.quoted param = '\x22' ::
      (param.flatMap (fun c => if c = '\x22' ∨ c = '\\' then ['\\', c] else [c]) ++ ['\x22'])) ∧
    ∀ command, (Outcome.ofRun (run files command)).exitCode = 1 →
      (Outcome.ofRun (run files command)).stdout = [] ∧
      ((run files command).run.run []).2 = [] := by
  refine ⟨fun file name values params outcome => urlAnswer_iff, Text.readQuoted?_quoted,
    fun param => Text.quoted_of_isPlain, ?_⟩
  intro command hfails
  have hprinted := Outcome.printed_of_reportsFirst (reportsFirst_run files command) hfails
  exact ⟨(Outcome.stdout_ofRun _).trans hprinted, hprinted⟩

/-- There is no such route, and two arguments have no equals sign. -/
def severalFaults : Command :=
  .url ['f'] ['x'] [] ["a=1".toList, ['\x22'], ['b']]

/-- Every file lists two texts that are no patterns. -/
def refusedFiles : Files where
  read _ := .ok Table.dottedDocument
  tomlFault _ := []

theorem url_answers_first_fault_several :
    Outcome.ofRun (run Outcome.servedFiles severalFaults) =
      { exitCode := 1, stdout := [],
        stderr := "Error: expected KEY=VALUE, got \"\\\"\"\n".toList } ∧
    Outcome.ofRun (run refusedFiles severalFaults) =
      { exitCode := 1, stdout := [],
        stderr := "Error: route table f is invalid\n\nCaused by:\n".toList
          ++ "    0: route \"b\" has an invalid pattern\n".toList
          ++ "    1: invalid pattern \"/{r...}/y\": {r...} must be the last segment\n".toList } := by
  obtain ⟨hserved, -, -, -⟩ := url_answers_first_fault Outcome.servedFiles
  obtain ⟨hrefused, -, -, -⟩ := url_answers_first_fault refusedFiles
  have htable : Table.ofFile ['f'] (Outcome.servedFiles.read ['f']) =
      .ok (.ofList [("r.1".toList, Outcome.twiceNamed)]) := by decide +kernel
  have hparams : ["a=1".toList, ['\x22'], ['b']] = ["a=1".toList] ++ ['\x22'] :: [['b']] := rfl
  have hpair : UrlAnswer Outcome.servedFiles ['f'] ['x'] [] ["a=1".toList, ['\x22'], ['b']]
      (failed ("expected KEY=VALUE, got ".toList ++ Text.quoted ['\x22'])) :=
    .noPair htable hparams (by decide) (by decide)
  have hroute : UrlAnswer refusedFiles ['f'] ['x'] [] ["a=1".toList, ['\x22'], ['b']]
      (invalidTable ['f'] ("route \"".toList ++ ['b'] ++ "\" has an invalid pattern".toList)
        (refusal (.restNotLast "/{r...}/y".toList ['r']))) :=
    .invalidRoute rfl Table.routes?_dottedDocument Table.leastRefused_twoRefused
  constructor
  · exact ((hserved _ _ _ _ _).1 hpair).symm.trans (by decide +kernel)
  · exact ((hrefused _ _ _ _ _).1 hroute).symm.trans (by decide +kernel)

end Command

end RoutePattern
