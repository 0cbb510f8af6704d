import RoutePattern.Command

/-!
# The command line

Runs a call on the files of the system.
-/

namespace RoutePattern

/-- The number of an error of the system, which is negated in some of its reports. -/
def errorNumber (code : UInt32) : Nat :=
  min code.toNat (0 - code).toNat

/-- The words of the system for an error, where those of the runtime differ from them. -/
def systemWords? : Nat → Option String
  | 1 => some "Operation not permitted"
  | 2 => some "No such file or directory"
  | 5 => some "Input/output error"
  | 13 => some "Permission denied"
  | 20 => some "Not a directory"
  | 21 => some "Is a directory"
  | 36 => some "File name too long"
  | 40 => some "Too many levels of symbolic links"
  | _ => none

def systemFault (code : UInt32) (details : String) : FileFault :=
  .system (errorNumber code) ((systemWords? (errorNumber code)).getD details).toList

/-- The fault behind an error. Those of the runtime alone have no number. -/
def faultOfError : IO.Error → FileFault
  | .alreadyExists _ code details | .otherError code details | .resourceBusy code details
  | .resourceVanished code details | .unsupportedOperation code details
  | .hardwareFault code details | .unsatisfiedConstraints code details
  | .illegalOperation code details | .protocolError code details | .timeExpired code details
  | .interrupted _ code details | .noFileOrDirectory _ code details
  | .invalidArgument _ code details | .permissionDenied _ code details
  | .resourceExhausted _ code details | .inappropriateType _ code details
  | .noSuchThing _ code details => systemFault code details
  | .unexpectedEof => .other "unexpected end of file".toList
  | .userError details => .other details.toList

def readSystemFile (path : Text) : IO (Except FileFault Text) := do
  try
    let bytes ← IO.FS.readBinFile (String.ofList path)
    return textOfBytes bytes.toList
  catch error =>
    return .error (faultOfError error)

def Command.file? : Command → Option Text
  | .check file => some file
  | .url file _ _ _ => some file
  | .parse _ _ => none
  | .build _ _ => none

/-- Runs the call that the arguments make, prints its outcome and returns the exit code. Of what the
TOML reader says of a text that it refuses, only the first words are printed. -/
def runCall (arguments : List Text) : IO UInt32 := do
  let file ← match (Command.ofArguments? arguments).bind Command.file? with
    | some path => readSystemFile path
    | none => pure (.error .notFound)
  let files : Files :=
    { read := fun _ => file, tomlFault := fun _ => "TOML parse error".toList }
  let outcome := Outcome.ofArguments files arguments
  IO.print (String.ofList outcome.stdout)
  IO.eprint (String.ofList outcome.stderr)
  return UInt32.ofNat outcome.exitCode

end RoutePattern

def main (arguments : List String) : IO UInt32 :=
  RoutePattern.runCall (arguments.map String.toList)
