import RoutePattern.Text.Percent
import RoutePattern.Unicode.Number

/-!
# Path segments

A path is a sequence of segments. A segment is a wildcard or an anchor only if the whole of its
source text has one of three shapes, `{name}`, `{name...}` and `{$}`; any other text is a literal,
whose percent escapes are read. The shapes are looked for in the source text, so that an escaped
brace is never syntax.
-/

namespace RoutePattern

inductive Segment where
  /-- Fixed text, its escapes already read. -/
  | literal (text : Text)
  /-- A wildcard `{name}` takes one value. -/
  | single (name : Text)
  /-- A wildcard `{name...}` takes one value, which stands for the rest of the path. -/
  | rest (name : Text)
  /-- The anchor `{$}` closes the path and takes no value. -/
  | endAnchor
  deriving DecidableEq, Repr

/-- A wildcard name is a letter or an underscore, followed by letters, numbers and underscores. -/
def isWildcardName : Text → Bool
  | [] => false
  | c :: t =>
    (Unicode.isAlphabetic c || c == '_') && t.all fun d => Unicode.isAlphanumeric d || d == '_'

namespace Segment

/-! ## Questions -/

def name? : Segment → Option Text
  | .single name => some name
  | .rest name => some name
  | .literal _ => none
  | .endAnchor => none

def isWildcard : Segment → Bool
  | .single _ => true
  | .rest _ => true
  | .literal _ => false
  | .endAnchor => false

def isTerminal : Segment → Bool
  | .single _ => false
  | .rest _ => true
  | .literal _ => false
  | .endAnchor => true

def valueCount (segment : Segment) : Nat :=
  if segment.isWildcard then 1 else 0

theorem isSome_name? (segment : Segment) : segment.name?.isSome = segment.isWildcard := by
  cases segment <;> rfl

/-! ## Source text -/

/-- What stands between the braces of a text that starts with an opening and ends with a closing
one. -/
def braced? (t : Text) : Option Text :=
  (Text.dropPrefix? ['{'] t).bind (Text.dropSuffix? ['}'])

theorem braced?_eq_some_iff {t inner : Text} :
    braced? t = some inner ↔ t = '{' :: (inner ++ ['}']) := by
  simp only [braced?, Option.bind_eq_some_iff, Text.dropPrefix?_eq_some_iff,
    Text.dropSuffix?_eq_some_iff]
  constructor
  · rintro ⟨_, rfl, rfl⟩
    rfl
  · rintro rfl
    exact ⟨inner ++ ['}'], rfl, rfl⟩

def ellipsis : Text := ['.', '.', '.']

def anchorText : Text := ['{', '$', '}']

/-- The segment as it is written in a pattern, literals without escapes. -/
def display : Segment → Text
  | .literal text => text
  | .single name => '{' :: (name ++ ['}'])
  | .rest name => '{' :: (name ++ (ellipsis ++ ['}']))
  | .endAnchor => anchorText

def ofSource (source : Text) : Segment :=
  if source = anchorText then .endAnchor
  else
    match braced? source with
    | none => .literal (Text.percentDecode source)
    | some inner =>
      match Text.dropSuffix? ellipsis inner with
      | some name =>
        if isWildcardName name then .rest name else .literal (Text.percentDecode source)
      | none =>
        if isWildcardName inner then .single inner else .literal (Text.percentDecode source)

/-- A source text of the segment, with every byte of a literal escaped. -/
def source : Segment → Text
  | .literal text => Text.percentEncode text
  | .single name => display (.single name)
  | .rest name => display (.rest name)
  | .endAnchor => display .endAnchor

end Segment

end RoutePattern
