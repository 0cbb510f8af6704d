import RoutePattern.Command

/-!
# What is printed line by line

What a course of action comes to is put together from its steps (`Ends`): a line that is printed
stands behind what was printed before it, and nothing comes after a stop. In general a report could
come between two lines; but a command that has printed a line checks nothing any more, and can then
only give up (`reportsFirst_run`). So a command that fails with a report has printed nothing.
-/

namespace RoutePattern

namespace Printing

/-! ## Steps -/

/-- A course of action prints a text, and then it is done or stops. -/
def Ends {α : Type} (printing : Printing α) (t : Text) (ending : Except Stop α) : Prop :=
  ∀ printed, printing.run.run printed = (ending, printed ++ t)

theorem Ends.line (t : Text) : Ends (line t) (t ++ ['\n']) (.ok ()) :=
  fun _ => rfl

theorem Ends.nothing : Ends (pure ()) [] (.ok ()) := by
  intro printed
  rw [List.append_nil]
  rfl

theorem Ends.giveUp : Ends (line? none) [] (.error (.panic tooWide)) := by
  intro printed
  rw [List.append_nil]
  rfl

/-- What is printed first stands first. -/
theorem Ends.seq {α : Type} {first : Printing Unit} {later : Printing α} {s t : Text}
    {ending : Except Stop α} (hfirst : Ends first s (.ok ())) (hlater : Ends later t ending) :
    Ends (first >>= fun _ => later) (s ++ t) ending := by
  intro printed
  rw [ExceptT.run_bind, StateT.run_bind, hfirst]
  show later.run.run (printed ++ s) = (ending, printed ++ (s ++ t))
  rw [hlater, ← List.append_assoc]

theorem Ends.stopped {α : Type} {first : Printing Unit} {s : Text} {stop : Stop}
    (hfirst : Ends first s (.error stop)) (later : Printing α) :
    Ends (first >>= fun _ => later) s (.error stop) := by
  intro printed
  rw [ExceptT.run_bind, StateT.run_bind, hfirst]
  rfl

theorem Ends.lines (ts : List Text) :
    Ends (lines ts) (ts.flatMap (· ++ ['\n'])) (.ok ()) := by
  induction ts with
  | nil => exact Ends.nothing
  | cons t ts ih => exact (Ends.line t).seq ih

/-- A check that goes well leaves no trace. -/
theorem check_ok_bind {α β : Type} (a : α) (next : α → Printing β) :
    (check (.ok a) >>= next) = next a :=
  rfl

/-! ## Reports come first -/

/-- No report stops a course of action. -/
def NeverReports (printing : Printing Unit) : Prop :=
  ∀ printed report, (printing.run.run printed).1 ≠ .error (.report report)

/-- When a report stops a course of action, nothing is printed. -/
def ReportsFirst (printing : Printing Unit) : Prop :=
  ∀ printed report, (printing.run.run printed).1 = .error (.report report) →
    (printing.run.run printed).2 = printed

theorem NeverReports.reportsFirst {printing : Printing Unit} (h : NeverReports printing) :
    ReportsFirst printing :=
  fun printed report hreport => absurd hreport (h printed report)

theorem Ends.neverReports {printing : Printing Unit} {t : Text} {ending : Except Stop Unit}
    (h : Ends printing t ending) (hending : ∀ report, ending ≠ .error (.report report)) :
    NeverReports printing := by
  intro printed report
  rw [h printed]
  exact hending report

theorem neverReports_line (t : Text) : NeverReports (line t) :=
  (Ends.line t).neverReports nofun

theorem neverReports_lines (ts : List Text) : NeverReports (lines ts) :=
  (Ends.lines ts).neverReports nofun

theorem neverReports_line? (t : Option Text) : NeverReports (line? t) := by
  cases t with
  | none => exact Ends.giveUp.neverReports nofun
  | some t => exact neverReports_line t

theorem NeverReports.seq {first later : Printing Unit} (hfirst : NeverReports first)
    (hlater : NeverReports later) : NeverReports (first >>= fun _ => later) := by
  intro printed report
  rw [ExceptT.run_bind, StateT.run_bind]
  rcases hrun : first.run.run printed with ⟨ending, printed'⟩
  cases ending with
  | ok done => exact hlater printed' report
  | error stop =>
      have hstop := hfirst printed report
      rw [hrun] at hstop
      exact hstop

theorem neverReports_forM {α : Type} {next : α → Printing Unit} (as : List α)
    (h : ∀ a, NeverReports (next a)) : NeverReports (as.forM next) := by
  induction as with
  | nil => exact Ends.nothing.neverReports nofun
  | cons a as ih => exact (h a).seq ih

/-- A check prints nothing, whether it stops the course of action or lets it go on. -/
theorem ReportsFirst.check {α : Type} (checked : Except Report α) {next : α → Printing Unit}
    (h : ∀ a, ReportsFirst (next a)) : ReportsFirst (check checked >>= next) := by
  cases checked with
  | ok a => exact h a
  | error report => exact fun _ _ _ => rfl

end Printing

/-! ## Outcomes -/

namespace Outcome

open Printing (Ends ReportsFirst)

theorem ofRun_of_ends {printing : Printing Unit} {t : Text} {ending : Except Stop Unit}
    (h : Ends printing t ending) : ofRun printing = ofEnd t ending := by
  unfold ofRun
  rw [h []]
  rfl

theorem ofRun_line (t : Text) :
    ofRun (Printing.line t) = { exitCode := 0, stdout := t ++ ['\n'], stderr := [] } :=
  ofRun_of_ends (Ends.line t)

theorem ofRun_check_error {α : Type} (report : Report) (next : α → Printing Unit) :
    ofRun (Printing.check (.error report) >>= next) = ofEnd [] (.error (.report report)) :=
  rfl

theorem stdout_ofEnd (t : Text) (ending : Except Stop Unit) : (ofEnd t ending).stdout = t := by
  rcases ending with (report | reason) | done <;> rfl

/-- One is the exit code of reports. -/
theorem exitCode_ofEnd_eq_one_iff {t : Text} {ending : Except Stop Unit} :
    (ofEnd t ending).exitCode = 1 ↔ ∃ report, ending = .error (.report report) := by
  rcases ending with (report | reason) | done <;> simp [ofEnd]

theorem stdout_ofRun (printing : Printing Unit) :
    (ofRun printing).stdout = (printing.run.run []).2 :=
  stdout_ofEnd _ _

theorem printed_of_reportsFirst {printing : Printing Unit} (h : ReportsFirst printing)
    (hfails : (ofRun printing).exitCode = 1) : (printing.run.run []).2 = [] := by
  obtain ⟨report, hreport⟩ := exitCode_ofEnd_eq_one_iff.1 hfails
  exact h [] report hreport

end Outcome

/-! ## Commands -/

namespace Command

open Printing (ReportsFirst)

theorem readPattern_eq {source : Text} {pattern : Pattern}
    (h : Pattern.parse source = .ok pattern) : readPattern source = .ok pattern := by
  rw [readPattern, h]
  rfl

/-- Every command looks for what it has to report before it prints. -/
theorem reportsFirst_run (files : Files) (command : Command) :
    ReportsFirst (run files command) := by
  cases command with
  | parse source json =>
      refine ReportsFirst.check _ fun pattern => ?_
      cases json with
      | true => exact (Printing.neverReports_line _).reportsFirst
      | false => exact (Printing.neverReports_lines _).reportsFirst
  | build source values =>
      refine ReportsFirst.check _ fun pattern => ?_
      exact ReportsFirst.check _ fun url => (Printing.neverReports_line url).reportsFirst
  | check file =>
      refine ReportsFirst.check _ fun table => ?_
      -- An entry may still stop the listing, but no report does.
      have hroutes := Printing.neverReports_forM table.toList fun route =>
        Printing.neverReports_line? (Table.listingLine? table.nameWidth route)
      exact ((Printing.neverReports_line _).seq hroutes).reportsFirst
  | url file name values params =>
      refine ReportsFirst.check _ fun table => ?_
      exact ReportsFirst.check _ fun url => (Printing.neverReports_line url).reportsFirst

end Command

end RoutePattern
