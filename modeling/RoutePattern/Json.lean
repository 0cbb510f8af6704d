import RoutePattern.Text

/-!
# JSON

JSON values without fractions, and the text that prints one over several lines: two spaces for each
level, one line for each item, and brackets that hold nothing close at once.
-/

namespace RoutePattern

/-- A JSON value whose numbers are natural. -/
inductive Json where
  | null
  | bool (b : Bool)
  | number (n : Nat)
  | string (t : Text)
  | array (items : List Json)
  | object (members : List (Text × Json))

namespace Json

/-- A character of a string. Only quotes, backslashes and controls are escaped. -/
def stringChar (c : Char) : Text :=
  if c = '\x22' || c = '\\' then ['\\', c]
  else if c = '\x08' then ['\\', 'b']
  else if c = '\x0C' then ['\\', 'f']
  else if c = '\n' then ['\\', 'n']
  else if c = '\r' then ['\\', 'r']
  else if c = '\t' then ['\\', 't']
  else if c.toNat < 0x20 then
    '\\' :: 'u' :: '0' :: '0' :: [Nat.digitChar (c.toNat / 16), Nat.digitChar (c.toNat % 16)]
  else [c]

def printString (t : Text) : Text :=
  '\x22' :: (t.flatMap stringChar ++ ['\x22'])

def newLine (margin : Nat) : Text :=
  '\n' :: List.replicate margin ' '

def comma {α : Type} (later : List α) : Text :=
  if later.isEmpty then [] else [',']

mutual

/-- A value, where further lines are moved right by a margin. -/
def print (margin : Nat) : Json → Text
  | .null => "null".toList
  | .bool b => if b then "true".toList else "false".toList
  | .number n => Text.ofNat n
  | .string t => printString t
  | .array items =>
    if items.isEmpty then ['[', ']']
    else '[' :: (printItems (margin + 2) items ++ newLine margin ++ [']'])
  | .object members =>
    if members.isEmpty then ['{', '}']
    else '{' :: (printMembers (margin + 2) members ++ newLine margin ++ ['}'])

def printItems (margin : Nat) : List Json → Text
  | [] => []
  | item :: later => newLine margin ++ print margin item ++ comma later ++ printItems margin later

def printMembers (margin : Nat) : List (Text × Json) → Text
  | [] => []
  | (name, value) :: later =>
    newLine margin ++ printString name ++ [':', ' '] ++ print margin value ++ comma later
      ++ printMembers margin later

end

def ofText? : Option Text → Json
  | some t => .string t
  | none => .null

end Json

end RoutePattern
