import RoutePattern.Toml.Quotation

/-!
# Trees of tables

A TOML document builds a tree of tables, entry by entry and header by header. What may still be
added to a table depends on how it came to be: by its own header or as the whole document, on the
way to a header further inside, or from a key with dots. Tables written in braces are closed.
-/

namespace RoutePattern.Toml

inductive Origin where
  /-- It is the document, has a header of its own, or belongs to a list of tables. -/
  | header
  /-- A header further inside passed through it. -/
  | implied
  /-- A key with dots passed through it. -/
  | dotted
  deriving DecidableEq

/-- A value of a document. Numbers, booleans and lists are told apart from texts, and no more. -/
inductive Node where
  | text (content : Text)
  /-- A date, a time or both. -/
  | moment (content : Text)
  /-- A number or a boolean. -/
  | scalar
  | array
  /-- A table in braces. -/
  | closed (entries : List (Text × Node))
  /-- A table that further lines may add to. -/
  | table (origin : Origin) (entries : List (Text × Node))
  /-- The tables under one repeated header, the latest first. -/
  | tables (elements : List (List (Text × Node)))

abbrev Entries := List (Text × Node)

namespace Entries

def get? (name : Text) : Entries → Option Node
  | [] => none
  | entry :: later => if name = entry.1 then some entry.2 else get? name later

def set (name : Text) (node : Node) : Entries → Entries
  | [] => [(name, node)]
  | entry :: later =>
    if name = entry.1 then (name, node) :: later else entry :: set name node later

/-- Changes the table at the end of a path, and makes the tables on the way that are missing, with
the given origin. A key with dots does not pass through a table that has a header of its own; a
list of tables stands for its latest element. -/
def change (way : Origin) (f : Origin → Entries → Option Entries) :
    List Text → Origin → Entries → Option Entries
  | [], origin, entries => f origin entries
  | name :: path, _, entries =>
    match get? name entries with
    | none => do
      let inner ← change way f path way []
      some (set name (.table way inner) entries)
    | some (.table origin inner) =>
      if way = .dotted && origin = .header then none
      else do
        let inner ← change way f path origin inner
        some (set name (.table origin inner) entries)
    | some (.tables (latest :: earlier)) => do
      let latest ← change way f path .header latest
      some (set name (.tables (latest :: earlier)) entries)
    | some _ => none

/-- Writes a value under a key. Each name is written once, and only keys with dots add to a table
that came from one. -/
def assign (key : Key) (node : Node) (origin : Origin) (entries : Entries) : Option Entries :=
  let write (origin : Origin) (entries : Entries) : Option Entries :=
    if origin = .dotted ↔ key.path = [] then none
    else if (get? key.last entries).isSome then none
    else some (set key.last node entries)
  change .dotted write key.path origin entries

/-- Opens the table of a header. It may be there already only because a header further inside
passed through it. -/
def openTable (key : Key) (entries : Entries) : Option Entries :=
  let opened (_ : Origin) (entries : Entries) : Option Entries :=
    match get? key.last entries with
    | none => some (set key.last (.table .header []) entries)
    | some (.table .implied inner) => some (set key.last (.table .header inner) entries)
    | some _ => none
  change .implied opened key.path .header entries

/-- Opens one more table of a repeated header. -/
def openElement (key : Key) (entries : Entries) : Option Entries :=
  let opened (_ : Origin) (entries : Entries) : Option Entries :=
    match get? key.last entries with
    | none => some (set key.last (.tables [[]]) entries)
    | some (.tables elements) => some (set key.last (.tables ([] :: elements)) entries)
    | some _ => none
  change .implied opened key.path .header entries

end Entries

end RoutePattern.Toml
