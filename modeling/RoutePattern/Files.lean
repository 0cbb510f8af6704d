import RoutePattern.Text.Utf8

/-!
# What a command finds

Reading a file gives a text, or a fault in the words of the system. What the TOML reader says of a
text that it refuses is the reader's own, and a parameter here: it is printed as it comes.
-/

namespace RoutePattern

inductive FileFault where
  /-- The system refuses, with a number and its words for it. -/
  | system (number : Nat) (words : Text)
  /-- Something else is in the way, which has no number. -/
  | other (words : Text)
  /-- The bytes of the file are not UTF-8. -/
  | notText
  deriving DecidableEq, Repr

namespace FileFault

def notFound : FileFault := .system 2 "No such file or directory".toList

def message : FileFault → Text
  | .system number words => words ++ " (os error ".toList ++ Text.ofNat number ++ [')']
  | .other words => words
  | .notText => "stream did not contain valid UTF-8".toList

end FileFault

def textOfBytes (bytes : List UInt8) : Except FileFault Text :=
  match Text.ofUtf8? bytes with
  | some t => .ok t
  | none => .error .notText

/-- What a command finds outside of itself. -/
structure Files where
  /-- What reading the file at a path gives. -/
  read : Text → Except FileFault Text
  /-- What the TOML reader says of a text that it refuses. -/
  tomlFault : Text → Text

/-- A system without any file. -/
def Files.empty : Files where
  read _ := .error .notFound
  tomlFault _ := []

end RoutePattern
