import RoutePattern.Reader
import RoutePattern.Text.Digits

/-!
# Strings and keys in TOML

A string stands between quotes, on one line or over several, with escapes (basic strings) or
without (literal strings). A key is one or more names with dots between them; a name is bare or a
string on one line.
-/

namespace RoutePattern.Toml

def apostrophe : Char := '\x27'

def doubleQuote : Char := '\x22'

/-- Whether a character may stand in a comment or, quotes and escapes apart, in a string. -/
def isPlain (c : Char) : Bool :=
  c == '\t' || (0x20 ≤ c.toNat && c.toNat != 0x7F)

def isBlank (c : Char) : Bool :=
  c == ' ' || c == '\t'

def newline : Reader Unit
  | '\n' :: t => some ((), t)
  | '\r' :: '\n' :: t => some ((), t)
  | _ => none

/-! ## Pieces of strings -/

def hexEscape (count : Nat) : Reader Char := fun t => do
  let (ds, t) ← Reader.times count Text.isHexDigit t
  let n := Text.numberOf 16 ds
  if n.isValidChar then some (Char.ofNat n, t) else none

def escape : Reader Char
  | [] => none
  | c :: t =>
    if c = 'b' then some ('\x08', t)
    else if c = 't' then some ('\t', t)
    else if c = 'n' then some ('\n', t)
    else if c = 'f' then some ('\x0C', t)
    else if c = 'r' then some ('\r', t)
    else if c = doubleQuote || c = '\\' then some (c, t)
    else if c = 'u' then hexEscape 4 t
    else if c = 'U' then hexEscape 8 t
    else none

def basicPiece : Reader Text
  | [] => none
  | c :: t =>
    if c = '\\' then (escape t).map fun (d, t) => ([d], t)
    else if c = doubleQuote then none
    else if isPlain c then some ([c], t)
    else none

def literalPiece : Reader Text
  | [] => none
  | c :: t => if c != apostrophe && isPlain c then some ([c], t) else none

/-- A line end within a string, always read as a line feed. -/
def linePiece : Reader Text := fun t =>
  (newline t).map fun (_, t) => (['\n'], t)

/-- The text after blanks and line ends. -/
def skipLines : Text → Text
  | [] => []
  | [c] => if isBlank c || c == '\n' then [] else [c]
  | c :: d :: t =>
    if isBlank c || c == '\n' then skipLines (d :: t)
    else if c == '\r' && d == '\n' then skipLines t
    else c :: d :: t

/-- A line end behind a backslash, which counts for nothing together with the blanks and line ends
after it. -/
def joinedLines : Reader Text
  | '\\' :: t => (newline (t.dropWhile isBlank)).map fun (_, t) => ([], skipLines t)
  | _ => none

/-- A quote that does not open three quotes in a row. -/
def innerQuote (quote : Char) : Reader Text
  | [] => none
  | c :: t =>
    if c = quote && (Text.dropPrefix? [quote, quote] t).isNone then some ([c], t) else none

/-! ## Strings -/

def shortString (quote : Char) (piece : Reader Text) : Reader Text := fun t => do
  let (_, t) ← Reader.exactly [quote] t
  let (pieces, t) := Reader.many piece t
  let (_, t) ← Reader.exactly [quote] t
  some (pieces.flatten, t)

/-- The end of a string over several lines: three quotes, after up to two that belong to it. -/
def longStringEnd (quote : Char) : Reader Text := fun t => do
  let (_, t) ← Reader.exactly [quote, quote, quote] t
  let (extra, t) := Reader.many (Reader.exactly [quote]) t
  if extra.length ≤ 2 then some (extra.flatten, t) else none

/-- A string over several lines. A line end right after the opening quotes is left out. -/
def longString (quote : Char) (piece : Reader Text) : Reader Text := fun t => do
  let (_, t) ← Reader.exactly [quote, quote, quote] t
  let t := (newline t).elim t Prod.snd
  let (pieces, t) := Reader.many ((piece.orElse linePiece).orElse (innerQuote quote)) t
  let (extra, t) ← longStringEnd quote t
  some (pieces.flatten ++ extra, t)

def basicString : Reader Text :=
  shortString doubleQuote basicPiece

def literalString : Reader Text :=
  shortString apostrophe literalPiece

def quotation : Reader Text := fun t =>
  match t with
  | c :: d :: e :: _ =>
    if c = d && d = e && c = doubleQuote then
      longString doubleQuote (joinedLines.orElse basicPiece) t
    else if c = d && d = e && c = apostrophe then longString apostrophe literalPiece t
    else (basicString.orElse literalString) t
  | _ => (basicString.orElse literalString) t

/-! ## Keys -/

structure Key where
  /-- The names of the tables around the last name, outermost first. -/
  path : List Text
  /-- The name within the innermost table. -/
  last : Text

def Key.ofNames (first : Text) : List Text → Key
  | [] => { path := [], last := first }
  | next :: later =>
    let key := Key.ofNames next later
    { path := first :: key.path, last := key.last }

def Key.names (key : Key) : List Text :=
  key.path ++ [key.last]

def isBare (c : Char) : Bool :=
  c.isAlphanum || c == '_' || c == '-'

def bareName : Reader Text := fun t =>
  let name := t.takeWhile isBare
  if name = [] then none else some (name, t.dropWhile isBare)

def keyName : Reader Text := fun t => do
  let (name, t) ← ((basicString.orElse literalString).orElse bareName) (t.dropWhile isBlank)
  some (name, t.dropWhile isBlank)

def laterKeyName : Reader Text
  | '.' :: t => keyName t
  | _ => none

/-- How many names a key may not reach, and how deep values may not be nested. -/
def depthLimit : Nat := 80

def key : Reader Key := fun t => do
  let (first, t) ← keyName t
  let (later, t) := Reader.many laterKeyName t
  if later.length + 1 < depthLimit then some (Key.ofNames first later, t) else none

end RoutePattern.Toml
