import RoutePattern.Json
import RoutePattern.Table
import RoutePattern.Text.Quoted

/-!
# Listings

What the commands print about patterns and tables: a listing of a pattern, one segment a line; the
same as JSON; and a listing of a table, one route a line in the order of the names.
-/

namespace RoutePattern

namespace Segment

def kind : Segment → Text
  | .literal _ => "literal".toList
  | .single _ => "wildcard".toList
  | .rest _ => "rest".toList
  | .endAnchor => "end".toList

/-- The segment in a listing. A literal stands in quotes, so that it never looks like a wildcard. -/
def describe : Segment → Text
  | .literal text => Text.quoted text
  | .single name => display (.single name)
  | .rest name => display (.rest name)
  | .endAnchor => display .endAnchor

def listingLine (index : Nat) (segment : Segment) : Text :=
  "    ".toList ++ Text.padLeft 2 (Text.ofNat index) ++ "  ".toList
    ++ Text.padRight 10 segment.kind ++ ' ' :: segment.describe

def tagged (kind content : Text) : Json :=
  .object [("kind".toList, .string kind), ("value".toList, .string content)]

def toJson : Segment → Json
  | .literal text => tagged "literal".toList text
  | .single name => tagged "single".toList name
  | .rest name => tagged "rest".toList name
  | .endAnchor => .object [("kind".toList, .string "end_anchor".toList)]

end Segment

/-- The numbers of values in a listing: one number, or the least and the greatest. -/
def Arity.describe (arity : Arity) : Text :=
  if arity.trailing then
    Text.ofNat arity.required ++ "..=".toList ++ Text.ofNat arity.max
  else Text.ofNat arity.required

namespace Pattern

def segmentLines (pattern : Pattern) : List Text :=
  pattern.segments.zipIdx.map fun (segment, index) => segment.listingLine index

def headLines (pattern : Pattern) : List Text :=
  ["Pattern: ".toList ++ pattern.source,
    "  method:   ".toList ++ pattern.method.getD ['-'],
    "  host:     ".toList ++ pattern.host.getD ['-'],
    "  segments:".toList]

def valuesLine (pattern : Pattern) : Text :=
  "  values:   ".toList ++ pattern.arity.describe

def listingLines (pattern : Pattern) : List Text :=
  pattern.headLines ++ pattern.segmentLines ++ [pattern.valuesLine]

def toJson (pattern : Pattern) : Json :=
  .object
    [("pattern".toList, .string pattern.source),
      ("method".toList, Json.ofText? pattern.method),
      ("host".toList, Json.ofText? pattern.host),
      ("segments".toList, .array (pattern.segments.map Segment.toJson)),
      ("required".toList, .number pattern.arity.required),
      ("trailing".toList, .bool pattern.arity.trailing)]

def wildcardList (pattern : Pattern) : Text :=
  '[' :: ([',', ' '].intercalate pattern.wildcards ++ [']'])

end Pattern

namespace Table

/-- The width of the names in a listing: the number of bytes of the longest one. No name has more
characters than bytes, so that all fit; but it may be more than `Text.widthLimit`. -/
def nameWidth (table : Table) : Nat :=
  (table.names.map fun name => (Text.utf8 name).length).foldl max 0

def listingLine? (width : Nat) (route : Text × Pattern) : Option Text :=
  (Text.column? width route.1).map fun name =>
    "  ".toList ++ name ++ "  ".toList ++ route.2.source ++ "  ".toList ++ route.2.wildcardList

def listingHead (table : Table) (file : Text) : Text :=
  "✓ ".toList ++ file ++ " (".toList ++ Text.ofNat table.size ++ " routes)".toList

end Table

end RoutePattern
