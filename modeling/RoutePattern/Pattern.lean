import RoutePattern.Segment

/-!
# Route patterns

A route pattern is a method, a host and a path of segments, each of which may be absent, together
with the text that it was read from. Its arity says how many values fill it: one for each wildcard,
and one more, if it is wanted, after a trailing slash.
-/

namespace RoutePattern

/-- A route pattern and the text that it was read from. -/
structure Pattern where
  /-- The whole source text. -/
  source : Text
  /-- The request method, never empty. -/
  method : Option Text
  /-- The host, never empty. -/
  host : Option Text
  segments : List Segment
  deriving DecidableEq, Repr

structure Arity where
  required : Nat
  /-- Whether one more value may follow a trailing slash. -/
  trailing : Bool
  deriving DecidableEq, Repr

namespace Arity

def max (arity : Arity) : Nat :=
  arity.required + if arity.trailing then 1 else 0

def accepts (arity : Arity) (count : Nat) : Bool :=
  arity.required ≤ count && count ≤ arity.max

theorem accepts_iff {arity : Arity} {count : Nat} :
    arity.accepts count = true ↔ arity.required ≤ count ∧ count ≤ arity.max := by
  simp [accepts]

end Arity

namespace Pattern

/-- The names of the wildcards, in the order in which they take values. -/
def wildcards (pattern : Pattern) : List Text :=
  pattern.segments.filterMap Segment.name?

def hasTrailingSlash (pattern : Pattern) : Bool :=
  pattern.segments.getLast? == some (.literal [])

def isAnchored (pattern : Pattern) : Bool :=
  pattern.segments.getLast? == some .endAnchor

def arity (pattern : Pattern) : Arity where
  required := pattern.segments.countP Segment.isWildcard
  trailing := pattern.hasTrailingSlash

theorem length_wildcards (pattern : Pattern) :
    pattern.wildcards.length = pattern.arity.required := by
  simp only [wildcards, arity]
  induction pattern.segments with
  | nil => rfl
  | cons segment segments ih =>
      cases segment <;>
        simp [List.filterMap_cons, List.countP_cons, Segment.name?, Segment.isWildcard, ih]

end Pattern

end RoutePattern
