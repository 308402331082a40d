import ApiNotes.Text.Basic

/-! # JSON values

JSON values whose numbers are natural and whose objects keep the order of their fields, with the
two ways to write them: compact, and indented by two spaces for each level.
-/

namespace ApiNotes

inductive Json where
  | null
  | bool (b : Bool)
  | num (n : Nat)
  | str (s : Text)
  | arr (items : List Json)
  | obj (fields : List (Text × Json))

namespace Json

def ofOption : Option Text → Json
  | some s => .str s
  | none => .null

def strings (ss : List Text) : Json := .arr (ss.map .str)

def hex2 (n : Nat) : Text := [Nat.digitChar (n / 16), Nat.digitChar (n % 16)]

/-- Quotes, backslashes and controls are escaped, everything else stands for itself. -/
def escape (c : Char) : Text :=
  if c = '"' then ['\\', '"']
  else if c = '\\' then ['\\', '\\']
  else if c = '\n' then ['\\', 'n']
  else if c = '\r' then ['\\', 'r']
  else if c = '\t' then ['\\', 't']
  else if c.toNat = 0x8 then ['\\', 'b']
  else if c.toNat = 0xC then ['\\', 'f']
  else if c.toNat < 0x20 then "\\u00".toList ++ hex2 c.toNat
  else [c]

def string (s : Text) : Text := '"' :: s.flatMap escape ++ ['"']

def boolean : Bool → Text
  | true => "true".toList
  | false => "false".toList

mutual

/-- The value without any blanks. -/
def compact : Json → Text
  | .null => "null".toList
  | .bool b => boolean b
  | .num n => Text.ofNat n
  | .str s => string s
  | .arr items => '[' :: Text.join [','] (compactItems items) ++ [']']
  | .obj fields => '\x7b' :: Text.join [','] (compactFields fields) ++ ['\x7d']

def compactItems : List Json → List Text
  | [] => []
  | item :: items => compact item :: compactItems items

def compactFields : List (Text × Json) → List Text
  | [] => []
  | (name, value) :: fields => (string name ++ ':' :: compact value) :: compactFields fields

end

def newline (depth : Nat) : Text := '\n' :: List.replicate (2 * depth) ' '

/-- Members between two brackets, each on a line of its own; no members take no line. -/
def bracket (l r : Char) (depth : Nat) : List Text → Text
  | [] => [l, r]
  | members =>
    let inner := newline (depth + 1)
    l :: inner ++ Text.join (',' :: inner) members ++ newline depth ++ [r]

mutual

/-- The value indented by two spaces for each level, as it stands at a depth. -/
def indented (depth : Nat) : Json → Text
  | .null => "null".toList
  | .bool b => boolean b
  | .num n => Text.ofNat n
  | .str s => string s
  | .arr items => bracket '[' ']' depth (indentedItems (depth + 1) items)
  | .obj fields => bracket '\x7b' '\x7d' depth (indentedFields (depth + 1) fields)

def indentedItems (depth : Nat) : List Json → List Text
  | [] => []
  | item :: items => indented depth item :: indentedItems depth items

def indentedFields (depth : Nat) : List (Text × Json) → List Text
  | [] => []
  | (name, value) :: fields =>
    (string name ++ ": ".toList ++ indented depth value) :: indentedFields depth fields

end

end Json

end ApiNotes
