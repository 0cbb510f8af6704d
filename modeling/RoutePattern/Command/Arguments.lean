import RoutePattern.Text

/-!
# Commands and their arguments

The arguments of a call name a command and what it works on. Options may stand anywhere among the
arguments of a command, until `--` ends them; a call that breaks a rule stands for no command.
-/

namespace RoutePattern

inductive Command where
  /-- Show the structure of a pattern, as a listing or as JSON. -/
  | parse (pattern : Text) (json : Bool)
  | build (pattern : Text) (values : List Text)
  | check (file : Text)
  /-- Build the path of a route of a file, from values in order or from `KEY=VALUE` arguments. -/
  | url (file name : Text) (values params : List Text)
  deriving DecidableEq, Repr

namespace Command

/-! ## Options -/

/-- The options that a command has beside `--verbose`. -/
structure OptionSet where
  json : Bool := false
  /-- The option `--param`, which takes a value. -/
  param : Bool := false

structure Arguments where
  /-- The arguments that are no options, in order. -/
  positionals : List Text := []
  params : List Text := []
  jsonCount : Nat := 0

namespace Arguments

def addPositional (arguments : Arguments) (value : Text) : Arguments :=
  { arguments with positionals := value :: arguments.positionals }

def addParam (arguments : Arguments) (value : Text) : Arguments :=
  { arguments with params := value :: arguments.params }

def addJson (arguments : Arguments) : Arguments :=
  { arguments with jsonCount := arguments.jsonCount + 1 }

end Arguments

inductive OptionArgument where
  /-- Nothing that matters. -/
  | verbose
  | json
  | param (value : Text)
  /-- The option `--param`, whose value is the next argument. -/
  | paramNext

def longOption? (options : OptionSet) (name : Text) : Option OptionArgument :=
  if name = "verbose".toList then some .verbose
  else if options.json && name = "json".toList then some .json
  else if options.param && name = "param".toList then some .paramNext
  else if options.param then (Text.dropPrefix? "param=".toList name).map .param
  else none

/-- What options with short names behind one dash say. The value of the last one may follow at
once, with or without an equals sign. -/
def shortOptions? (options : OptionSet) : Text → Option OptionArgument
  | [] => some .verbose
  | c :: letters =>
    if c = 'v' then shortOptions? options letters
    else if options.param && c = 'p' then
      match letters with
      | [] => some .paramNext
      | '=' :: value => some (.param value)
      | value => some (.param value)
    else none

/-- Whether an argument looks like options. A lone dash is a value. -/
def isOption : Text → Bool
  | '-' :: _ :: _ => true
  | _ => false

def optionArgument? (options : OptionSet) (argument : Text) : Option OptionArgument :=
  match argument with
  | '-' :: '-' :: name => longOption? options name
  | _ => shortOptions? options (argument.drop 1)

/-- The arguments of a command, sorted, if the command has all options among them and each of them
has its value. -/
def sort? (options : OptionSet) : List Text → Option Arguments
  | [] => some {}
  | argument :: later =>
    if argument = ['-', '-'] then some { positionals := later }
    else if isOption argument then
      match optionArgument? options argument with
      | none => none
      | some .verbose => sort? options later
      | some .json => (sort? options later).map Arguments.addJson
      | some (.param value) => (sort? options later).map (·.addParam value)
      | some .paramNext =>
        match later with
        | [] => none
        | value :: later =>
          if isOption value then none else (sort? options later).map (·.addParam value)
    else (sort? options later).map (·.addPositional argument)

/-! ## Commands -/

def parse? (arguments : List Text) : Option Command := do
  let sorted ← sort? { json := true } arguments
  match sorted.positionals with
  | [pattern] =>
    if sorted.jsonCount ≤ 1 then some (.parse pattern (sorted.jsonCount = 1)) else none
  | _ => none

def build? (arguments : List Text) : Option Command := do
  let sorted ← sort? {} arguments
  match sorted.positionals with
  | pattern :: values => some (.build pattern values)
  | [] => none

/-- The file to check. The name of a file is not empty. -/
def check? (arguments : List Text) : Option Command := do
  let sorted ← sort? {} arguments
  match sorted.positionals with
  | [file] => if file = [] then none else some (.check file)
  | _ => none

/-- The file, the route and the values, which are given in one of two ways. -/
def url? (arguments : List Text) : Option Command := do
  let sorted ← sort? { param := true } arguments
  match sorted.positionals with
  | file :: name :: values =>
    if file = [] then none
    else if values ≠ [] ∧ sorted.params ≠ [] then none
    else some (.url file name values sorted.params)
  | _ => none

def named? (name : Text) (arguments : List Text) : Option Command :=
  if name = "parse".toList then parse? arguments
  else if name = "build".toList then build? arguments
  else if name = "check".toList then check? arguments
  else if name = "url".toList then url? arguments
  else none

/-- The command of a call. Before its name only `--verbose` may stand. -/
def ofArguments? : List Text → Option Command
  | [] => none
  | argument :: later =>
    if argument = ['-', '-'] then none
    else if isOption argument then
      (optionArgument? {} argument).bind fun _ => ofArguments? later
    else named? argument later

end Command

end RoutePattern
