import RoutePattern.Command.Arguments
import RoutePattern.Command.Listing
import RoutePattern.Command.Printing

/-!
# Running commands

A command first makes sure of all that can fail with a report, and prints after that. What it finds
outside is a parameter, so that a run is a function of the call.
-/

namespace RoutePattern

namespace Command

def readPattern (source : Text) : Except Report Pattern :=
  (Pattern.parse source).mapError (Report.ofPatternError source)

def readTable (files : Files) (file : Text) : Except Report Table :=
  (Table.ofFile file (files.read file)).mapError (Report.ofInvalidTable files.tomlFault file)

/-- The name and the value of an argument, cut at the first equals sign. -/
def readParam (param : Text) : Except Report (Text × Text) :=
  match Text.cut? '=' param with
  | some pair => .ok pair
  | none => .error (Report.ofParam param)

/-- The path of a route, with values by name if there are arguments for it, and in order if not. -/
def routeUrl (files : Files) (table : Table) (name : Text) (values params : List Text) :
    Except Report Text :=
  if params = [] then
    (table.urlFor name values).mapError (Report.ofTableError files.tomlFault)
  else do
    let pairs ← params.mapM readParam
    (table.urlForParams name pairs).mapError (Report.ofTableError files.tomlFault)

def run (files : Files) : Command → Printing Unit
  | .parse source json => do
    let pattern ← Printing.check (readPattern source)
    if json then Printing.line (pattern.toJson.print 0)
    else Printing.lines pattern.listingLines
  | .build source values => do
    let pattern ← Printing.check (readPattern source)
    let url ← Printing.check ((pattern.build values).mapError Report.ofBuildError)
    Printing.line url
  | .check file => do
    let table ← Printing.check (readTable files file)
    Printing.line (table.listingHead file)
    table.toList.forM fun route => Printing.line? (Table.listingLine? table.nameWidth route)
  | .url file name values params => do
    let table ← Printing.check (readTable files file)
    let url ← Printing.check (routeUrl files table name values params)
    Printing.line url

end Command

structure Outcome where
  /-- Zero for success, one for a report, two for a call that is no command, and 101 for a program
  that gave up. -/
  exitCode : Nat
  stdout : Text
  /-- What is reported. Of a program that gave up, it is the reason alone. -/
  stderr : Text
  deriving DecidableEq, Repr

namespace Outcome

def ofEnd (printed : Text) : Except Stop Unit → Outcome
  | .ok () => { exitCode := 0, stdout := printed, stderr := [] }
  | .error (.report report) => { exitCode := 1, stdout := printed, stderr := report.text }
  | .error (.panic reason) => { exitCode := 101, stdout := printed, stderr := reason ++ ['\n'] }

def ofRun (printing : Printing Unit) : Outcome :=
  let run := printing.run.run []
  ofEnd run.2 run.1

def usageLines : List Text :=
  ["usage: parse [--json] PATTERN".toList,
    "       build PATTERN [VALUE]...".toList,
    "       check FILE".toList,
    "       url FILE NAME [VALUE]...".toList,
    "       url FILE NAME --param KEY=VALUE...".toList]

/-- What is reported of a call that is no command, in words of this program. -/
def usage : Text :=
  usageLines.flatMap (· ++ ['\n'])

def ofArguments (files : Files) (arguments : List Text) : Outcome :=
  match Command.ofArguments? arguments with
  | some command => ofRun (command.run files)
  | none => { exitCode := 2, stdout := [], stderr := usage }

end Outcome

end RoutePattern
