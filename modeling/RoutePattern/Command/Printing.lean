import RoutePattern.Command.Report

/-!
# Printing line by line

A course of action looks for what can stop it and prints one line after another. What is printed
before it stops stays printed, whether a report stops it or the program gives up.
-/

namespace RoutePattern

/-- Why a course of action stops before its end. -/
inductive Stop where
  | report (report : Report)
  /-- The program gives up in the middle of its work. Of what it says then only the reason is kept,
  not the place in the program. -/
  | panic (reason : Text)
  deriving DecidableEq, Repr

/-- A course of action, over what is printed so far. -/
abbrev Printing := ExceptT Stop (StateM Text)

namespace Printing

def line (t : Text) : Printing Unit :=
  modify fun printed => printed ++ (t ++ ['\n'])

def lines (ts : List Text) : Printing Unit :=
  ts.forM line

/-- Goes on with what a check gives, or stops with its report. -/
def check {α : Type} : Except Report α → Printing α
  | .ok a => pure a
  | .error report => throw (.report report)

def tooWide : Text := "Formatting argument out of range".toList

/-- Prints a line, or gives up because it cannot be laid out. -/
def line? : Option Text → Printing Unit
  | some t => line t
  | none => throw (.panic tooWide)

end Printing

end RoutePattern
