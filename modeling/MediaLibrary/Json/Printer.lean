/-
JSON text.

Two layouts: one line without any blanks, and indented by two blanks per level with
one item or member per line.  An empty array or object is written without a break
in both.
-/
import MediaLibrary.Json.Basic
import MediaLibrary.Text.Hexadecimal

namespace MediaLibrary.Json

/-- A character inside a quoted text.  Quotes, backslashes and control characters
are escaped, and nothing else. -/
def escape (c : Char) : List Char :=
  if c = '"' then ['\\', '"']
  else if c = '\\' then ['\\', '\\']
  else if c = '\n' then ['\\', 'n']
  else if c = '\r' then ['\\', 'r']
  else if c = '\t' then ['\\', 't']
  else if c = '\x08' then ['\\', 'b']
  else if c = '\x0c' then ['\\', 'f']
  else if c.toNat < 0x20 then
    ['\\', 'u', '0', '0', Text.hexDigit (c.toNat / 16), Text.hexDigit (c.toNat % 16)]
  else [c]

/-- A quoted text. -/
def quoted (s : String) : String :=
  String.ofList ('"' :: s.toList.flatMap escape ++ ['"'])

/-- The text of a number. -/
def numberText : JsonNumber → String
  | .natural n => n.toNat.repr
  | .negative i => toString i.toInt
  | .float x => x.dataText

mutual

/-- The text on one line. -/
def compact : Json → String
  | null | unreadable => "null"
  | bool b => toString b
  | number n => numberText n
  | str s => quoted s
  | arr items => "[" ++ ",".intercalate (compactItems items) ++ "]"
  | obj members => "\x7b" ++ ",".intercalate (compactMembers members) ++ "\x7d"

/-- The texts of some items. -/
def compactItems : List Json → List String
  | [] => []
  | j :: rest => compact j :: compactItems rest

/-- The texts of some members, each a name and a value. -/
def compactMembers : List (String × Json) → List String
  | [] => []
  | (name, j) :: rest => (quoted name ++ ":" ++ compact j) :: compactMembers rest

end

/-- Indented parts between brackets, `depth` being the level of the brackets. -/
def block (opening closing : String) (depth : Nat) (parts : List String) : String :=
  if parts.isEmpty then opening ++ closing
  else
    let indent (level : Nat) := "\n" ++ String.ofList (List.replicate (2 * level) ' ')
    opening ++ ",".intercalate (parts.map (indent (depth + 1) ++ ·)) ++ indent depth ++ closing

mutual

/-- The indented text of a value whose brackets stand at a given level. -/
def indentedAt (depth : Nat) : Json → String
  | arr items => block "[" "]" depth (indentedItems (depth + 1) items)
  | obj members => block "\x7b" "\x7d" depth (indentedMembers (depth + 1) members)
  | null | unreadable => "null"
  | bool b => toString b
  | number n => numberText n
  | str s => quoted s

/-- The texts of some items. -/
def indentedItems (depth : Nat) : List Json → List String
  | [] => []
  | j :: rest => indentedAt depth j :: indentedItems depth rest

/-- The texts of some members, each a name and a value. -/
def indentedMembers (depth : Nat) : List (String × Json) → List String
  | [] => []
  | (name, j) :: rest =>
    (quoted name ++ ": " ++ indentedAt depth j) :: indentedMembers depth rest

end

/-- The indented text. -/
def indented (j : Json) : String :=
  indentedAt 0 j

example : compact (arr [number (.natural 1), obj [("a", null)]]) = "[1,\x7b\"a\":null\x7d]" := by
  decide +kernel
example : indented (obj [("a", arr []), ("b", bool true)])
    = "\x7b\n  \"a\": [],\n  \"b\": true\n\x7d" := by
  decide +kernel

end MediaLibrary.Json
