import RoutePattern.Toml.Moment
import RoutePattern.Toml.Number
import RoutePattern.Toml.Tree

/-!
# TOML documents

A document is a sequence of lines: headers, which open tables, and entries, which write a value
under a key of the table opened last. Reading a document gives the entries of its outermost table,
or nothing if the document is ill-formed.
-/

namespace RoutePattern.Toml

/-! ## Values -/

def comment : Reader Unit
  | '#' :: t => some ((), t.dropWhile isPlain)
  | _ => none

/-- A blank, a line end, or a comment with its line end: what may stand between the values of a
list. -/
def filler : Reader Unit := fun t =>
  ((Reader.charWhere isBlank t).map fun (_, t) => ((), t)).or
    ((newline t).or ((comment t).bind fun (_, t) => newline t))

def skipFiller (t : Text) : Text :=
  (Reader.many filler t).2

def arrayItem (value : Reader Node) : Reader Unit := fun t => do
  let (_, t) ← value (skipFiller t)
  some ((), skipFiller t)

def laterArrayItem (value : Reader Node) : Reader Unit
  | ',' :: t => arrayItem value t
  | _ => none

/-- A list after its opening bracket. A comma may follow the last value. -/
def arrayBody (value : Reader Node) : Reader Node := fun t => do
  let t :=
    match arrayItem value t with
    | none => skipFiller t
    | some (_, t) =>
      match (Reader.many (laterArrayItem value) t).2 with
      | ',' :: t => skipFiller t
      | t => t
  let (_, t) ← Reader.exactly [']'] t
  some (.array, t)

def keyValue (value : Reader Node) : Reader (Key × Node) := fun t => do
  let (k, t) ← key t
  let (_, t) ← Reader.exactly ['='] t
  let (node, t) ← value (t.dropWhile isBlank)
  some ((k, node), t.dropWhile isBlank)

def laterKeyValue (value : Reader Node) : Reader (Key × Node)
  | ',' :: t => keyValue value t
  | _ => none

def tableBody (value : Reader Node) : Reader Node := fun t => do
  let (written, t) :=
    match keyValue value t with
    | none => ([], t.dropWhile isBlank)
    | some (first, t) =>
      let (later, t) := Reader.many (laterKeyValue value) t
      (first :: later, t)
  let (_, t) ← Reader.exactly ['}'] t
  let entries ← written.foldlM (fun es (k, node) => Entries.assign k node .header es) []
  some (.closed entries, t)

/-- A boolean, or a float without digits and sign. -/
def word : Reader Unit := fun t => do
  let known := Reader.exactly "true".toList |>.orElse (Reader.exactly "false".toList)
    |>.orElse (Reader.exactly "inf".toList) |>.orElse (Reader.exactly "nan".toList)
  let (_, t) ← known t
  some ((), t)

def value (depth : Nat) : Reader Node
  | [] => none
  | c :: t =>
    if c = doubleQuote || c = apostrophe then
      (quotation (c :: t)).map fun (content, t) => (.text content, t)
    else if c = '[' then
      match depth with
      | 0 => none
      | depth + 1 => arrayBody (value depth) t
    else if c = '{' then
      match depth with
      | 0 => none
      | depth + 1 => tableBody (value depth) t
    else if c = '+' || c = '-' || c.isDigit then
      match moment (c :: t) with
      | some (content, t) => some (.moment content, t)
      | none => (number (c :: t)).map fun (_, t) => (.scalar, t)
    else (word (c :: t)).map fun (_, t) => (.scalar, t)

/-! ## Lines -/

inductive Line where
  | blank
  | header (key : Key)
  /-- One more table of a list of tables is opened. -/
  | element (key : Key)
  | entry (key : Key) (node : Node)

/-- The end of a line: blanks, a comment if there is one, and a line end or the end of the text. -/
def lineEnd : Reader Unit := fun t =>
  let t := t.dropWhile isBlank
  let t := (comment t).elim t Prod.snd
  if t = [] then some ((), []) else newline t

def lineContent : Reader Line
  | [] => some (.blank, [])
  | '[' :: '[' :: t => do
    let (k, t) ← key t
    let (_, t) ← Reader.exactly [']', ']'] t
    some (.element k, t)
  | '[' :: t => do
    let (k, t) ← key t
    let (_, t) ← Reader.exactly [']'] t
    some (.header k, t)
  | c :: t =>
    if c = '#' || c = '\n' || c = '\r' then some (.blank, c :: t)
    else (keyValue (value (depthLimit - 1)) (c :: t)).map fun ((k, node), t) => (.entry k node, t)

def line : Reader Line
  | [] => none
  | c :: t => do
    let (content, t) ← lineContent ((c :: t).dropWhile isBlank)
    let (_, t) ← lineEnd t
    some (content, t)

def lines? (t : Text) : Option (List Line) :=
  let taken := Reader.many line t
  if taken.2 = [] then some taken.1 else none

/-! ## Documents -/

/-- A document that has been read up to some line. -/
structure Document where
  entries : Entries
  /-- The names that lead to the table opened last. -/
  current : List Text

namespace Document

def step (document : Document) : Line → Option Document
  | .blank => some document
  | .header key => do
    let entries ← document.entries.openTable key
    some { entries, current := key.names }
  | .element key => do
    let entries ← document.entries.openElement key
    some { entries, current := key.names }
  | .entry key node => do
    let entries ←
      Entries.change .implied (Entries.assign key node) document.current .header document.entries
    some { document with entries }

def byteOrderMark : Char := '\ufeff'

def ofText? (t : Text) : Option Entries := do
  let t := (Text.dropPrefix? [byteOrderMark] t).getD t
  let lines ← lines? t
  let document ← lines.foldlM step { entries := [], current := [] }
  some document.entries

end Document

end RoutePattern.Toml
