import RoutePattern.NameMap
import RoutePattern.Pattern.Parser

/-!
# Building paths

A pattern and values make a concrete path: the host, then a slash and a text for each segment.
Values are placed as they are, in the order of the wildcards (`build`) or by the wildcards' names
(`buildNamed`); literals are written with their escapes read. After a trailing slash there is room
for one value more, which takes the place of the empty last segment.
-/

namespace RoutePattern

inductive BuildError where
  | notEnough (pattern : Text) (expected : Nat)
  | tooMany (pattern : Text) (got used : Nat)
  | missingValue (pattern name : Text)
  deriving DecidableEq, Repr

inductive BuildErrorKind where
  | notEnough
  | tooMany
  | missingValue
  deriving DecidableEq, Repr

namespace BuildError

def kind : BuildError → BuildErrorKind
  | .notEnough _ _ => .notEnough
  | .tooMany _ _ _ => .tooMany
  | .missingValue _ _ => .missingValue

def isArity : BuildError → Bool
  | .notEnough _ _ => true
  | .tooMany _ _ _ => true
  | .missingValue _ _ => false

def message : BuildError → Text
  | .notEnough pattern expected =>
    "not enough values for pattern \"".toList ++ pattern ++ "\", expect at least: ".toList
      ++ Text.ofNat expected
  | .tooMany pattern got used =>
    "too many values for pattern \"".toList ++ pattern ++ "\", got: ".toList ++ Text.ofNat got
      ++ ", used: ".toList ++ Text.ofNat used
  | .missingValue pattern name =>
    "missing value for wildcard \"".toList ++ name ++ "\" in pattern \"".toList ++ pattern
      ++ "\"".toList

end BuildError

namespace Pattern

/-- The texts of the segments, with the values placed in order, or nothing if they run out at a
wildcard. The last segment takes a value if it is empty and one is left. -/
def place : List Segment → List Text → Option (List Text)
  | [], _ => some []
  | .literal text :: segments, values =>
    if text = [] ∧ segments = [] then some [values.headD []]
    else (place segments values).map (text :: ·)
  | .endAnchor :: segments, values => (place segments values).map ([] :: ·)
  | .single _ :: segments, value :: values => (place segments values).map (value :: ·)
  | .rest _ :: segments, value :: values => (place segments values).map (value :: ·)
  | .single _ :: _, [] => none
  | .rest _ :: _, [] => none

/-- The text of a segment whose value is looked up by name, or the name that has no value. -/
def placeNamed (params : NameMap Text) : Segment → Except Text Text
  | .literal text => .ok text
  | .single name => (params.get? name).elim (.error name) .ok
  | .rest name => (params.get? name).elim (.error name) .ok
  | .endAnchor => .ok []

def assemble (pattern : Pattern) (texts : List Text) : Text :=
  pattern.host.getD [] ++ texts.flatMap ('/' :: ·)

def build (pattern : Pattern) (values : List Text) : Except BuildError Text :=
  let arity := pattern.arity
  if values.length < arity.required then
    .error (.notEnough pattern.source arity.required)
  else if arity.max < values.length then
    .error (.tooMany pattern.source values.length arity.max)
  else
    match place pattern.segments values with
    | some texts => .ok (pattern.assemble texts)
    | none => .error (.notEnough pattern.source arity.required)

/-- The path with the values placed by name. Names that the pattern does not have are ignored. -/
def buildNamed (pattern : Pattern) (params : NameMap Text) : Except BuildError Text :=
  match pattern.segments.mapM (placeNamed params) with
  | .ok texts => .ok (pattern.assemble texts)
  | .error name => .error (.missingValue pattern.source name)

end Pattern

end RoutePattern
