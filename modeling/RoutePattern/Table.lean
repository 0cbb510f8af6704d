import RoutePattern.Files
import RoutePattern.Pattern.Build
import RoutePattern.Toml.Routes

/-!
# Route tables

A route table binds names to patterns. It is filled one route at a time, from pairs, or from a TOML
document; a document fills it as a whole or not at all, and of several routes that are no patterns
the one with the least name is reported.
-/

namespace RoutePattern

abbrev Table := NameMap Pattern

inductive TableError where
  | unreadable (path : Text) (fault : FileFault)
  /-- The TOML reader refuses this text, or it does not list routes. -/
  | malformed (document : Text)
  | invalidRoute (name : Text) (source : PatternError)
  | unknownRoute (name : Text)
  | build (source : BuildError)
  deriving DecidableEq, Repr

namespace TableError

/-- The message that a user reads, given the words of the TOML reader. -/
def message (tomlFault : Text → Text) : TableError → Text
  | .unreadable path _ => "failed to read route table ".toList ++ path
  | .malformed document => "failed to parse route table: ".toList ++ tomlFault document
  | .invalidRoute name _ => "route \"".toList ++ name ++ "\" has an invalid pattern".toList
  | .unknownRoute name => "no route named \"".toList ++ name ++ "\"".toList
  | .build source => source.message

def cause? (tomlFault : Text → Text) : TableError → Option Text
  | .unreadable _ fault => some fault.message
  | .malformed document => some (tomlFault document)
  | .invalidRoute _ source => some source.message
  | .unknownRoute _ => none
  | .build _ => none

end TableError

namespace Table

def insertText (table : Table) (entry : Text × Text) : Except TableError Table :=
  match Pattern.parse entry.2 with
  | .ok pattern => .ok (table.insert entry.1 pattern)
  | .error source => .error (.invalidRoute entry.1 source)

def ofTexts (texts : NameMap Text) : Except TableError Table :=
  texts.toList.foldlM insertText NameMap.empty

def ofToml (document : Text) : Except TableError Table :=
  match Toml.routes? document with
  | some texts => ofTexts texts
  | none => .error (.malformed document)

/-- The table in the file at a path, given what reading the file gave. -/
def ofFile (path : Text) (file : Except FileFault Text) : Except TableError Table :=
  match file with
  | .ok document => ofToml document
  | .error fault => .error (.unreadable path fault)

def parsePair (pair : Text × Text) : Except PatternError (Text × Pattern) :=
  (Pattern.parse pair.2).map fun pattern => (pair.1, pattern)

/-- The table of pairs of names and pattern texts, where the last pair of a name stays. -/
def ofPairs (pairs : List (Text × Text)) : Except PatternError Table :=
  (pairs.mapM parsePair).map NameMap.ofList

def find (table : Table) (name : Text) : Except TableError Pattern :=
  match table.get? name with
  | some pattern => .ok pattern
  | none => .error (.unknownRoute name)

def urlFor (table : Table) (name : Text) (values : List Text) : Except TableError Text := do
  let pattern ← table.find name
  (pattern.build values).mapError .build

/-- The path of a named route, with values placed by name. The last value of a name counts. -/
def urlForParams (table : Table) (name : Text) (params : List (Text × Text)) :
    Except TableError Text := do
  let pattern ← table.find name
  (pattern.buildNamed (NameMap.ofList params)).mapError .build

end Table

end RoutePattern
