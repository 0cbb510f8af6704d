import RoutePattern.NameMap
import RoutePattern.Toml.Document

/-!
# The routes of a document

A document lists routes in its table `routes`, under whichever of the spellings that TOML has for a
table. Every entry of it is a text; everything beside it may be any TOML.
-/

namespace RoutePattern.Toml

def routesName : Text := "routes".toList

/-- The name under which a date and time presents its text when it stands where a table is
expected. -/
def momentName : Text := "$__toml_private_datetime".toList

def textEntry? : Text × Node → Option (Text × Text)
  | (name, .text content) => some (name, content)
  | _ => none

/-- The texts of a table by name, if it holds nothing else. -/
def Entries.texts? (entries : Entries) : Option (NameMap Text) :=
  (entries.mapM textEntry?).map NameMap.ofList

def Node.texts? : Node → Option (NameMap Text)
  | .table _ entries => Entries.texts? entries
  | .closed entries => Entries.texts? entries
  | .moment content => some (NameMap.ofList [(momentName, content)])
  | _ => none

/-- The routes that a document lists, by name. A document without a table of routes lists none. -/
def routes? (t : Text) : Option (NameMap Text) := do
  let entries ← Document.ofText? t
  match entries.get? routesName with
  | none => some NameMap.empty
  | some node => node.texts?

end RoutePattern.Toml
