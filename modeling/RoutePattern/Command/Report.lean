import RoutePattern.Table
import RoutePattern.Text.Quoted

/-!
# Reports

A report says why a command failed: first what could not be done, then the causes, each the cause of
the one before it. A single cause is set off by a margin; several are numbered from zero.
-/

namespace RoutePattern

structure Report where
  /-- What could not be done. -/
  headline : Text
  /-- The causes, each the cause of the one before it. -/
  causes : List Text
  deriving DecidableEq, Repr

namespace Report

def numberedCause (cause : Text × Nat) : Text :=
  '\n' :: Text.padLeft 5 (Text.ofNat cause.2) ++ ": ".toList ++ Text.indentLater 7 cause.1

def causesText : List Text → Text
  | [] => []
  | [cause] => "\n\nCaused by:\n    ".toList ++ Text.indentLater 4 cause
  | causes => "\n\nCaused by:".toList ++ causes.zipIdx.flatMap numberedCause

def text (report : Report) : Text :=
  "Error: ".toList ++ report.headline ++ causesText report.causes ++ ['\n']

/-- A text that should be a pattern is none. -/
def ofPatternError (source : Text) (error : PatternError) : Report where
  headline := "cannot parse ".toList ++ Text.quoted source
  causes := [error.message]

def ofBuildError (error : BuildError) : Report where
  headline := error.message
  causes := []

def ofTableError (tomlFault : Text → Text) (error : TableError) : Report where
  headline := error.message tomlFault
  causes := (error.cause? tomlFault).toList

def ofInvalidTable (tomlFault : Text → Text) (file : Text) (error : TableError) : Report where
  headline := "route table ".toList ++ file ++ " is invalid".toList
  causes := error.message tomlFault :: (error.cause? tomlFault).toList

/-- An argument that should be a name and a value is none. -/
def ofParam (param : Text) : Report where
  headline := "expected KEY=VALUE, got ".toList ++ Text.quoted param
  causes := []

end Report

end RoutePattern
