import RoutePattern.Pattern

/-!
# Reading patterns

A pattern text is `method host/segment/segment`. All before the first space is the method, all
before the first slash of what follows is the host, and every slash opens one segment, empty
segments included. Only one thing can be wrong with a text: a segment that has to be the last one
and is not.
-/

namespace RoutePattern

inductive PatternError where
  /-- An end anchor is followed by further segments. -/
  | endAnchorNotLast (pattern : Text)
  /-- A wildcard for the rest of the path is followed by further segments. -/
  | restNotLast (pattern name : Text)
  deriving DecidableEq, Repr

namespace PatternError

def opening (pattern : Text) : Text :=
  "invalid pattern \"".toList ++ pattern ++ "\": ".toList

def message : PatternError → Text
  | .endAnchorNotLast pattern =>
    opening pattern ++ Segment.anchorText ++ " must be the last segment".toList
  | .restNotLast pattern name =>
    opening pattern ++ (Segment.rest name).display ++ " must be the last segment".toList

end PatternError

namespace Pattern

/-- The method and the text after it. A text without a space has no method. -/
def cutMethod (source : Text) : Text × Text :=
  (Text.cut? ' ' source).getD ([], source)

/-- A part of a pattern text, absent when it is empty. -/
def part? (t : Text) : Option Text :=
  if t = [] then none else some t

/-- The first segment that has to be the last one and is not. -/
def misplaced? : List Segment → Option Segment
  | [] => none
  | [_] => none
  | segment :: next :: later =>
    if segment.isTerminal then some segment else misplaced? (next :: later)

def parse (source : Text) : Except PatternError Pattern :=
  let cut := cutMethod source
  let pieces := Text.split '/' cut.2
  let segments := pieces.2.map Segment.ofSource
  match misplaced? segments with
  | some (.rest name) => .error (.restNotLast source name)
  | some _ => .error (.endAnchorNotLast source)
  | none => .ok { source, method := part? cut.1, host := part? pieces.1, segments }

/-- A text for a method, a host and segments, with every byte of a literal escaped. The space is
always written, so that a space in the host or the path is never taken for the one after the
method. -/
def write (method host : Option Text) (segments : List Segment) : Text :=
  method.getD [] ++ ' ' :: host.getD [] ++ segments.flatMap fun segment => '/' :: segment.source

end Pattern

end RoutePattern
