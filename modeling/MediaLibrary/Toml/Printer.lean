/-
Writing TOML.

A text is written in the first of several forms that can hold it as it is: in double
quotes, in single quotes, in three double quotes, in three single quotes; a text that none
of them can hold is escaped.  An array of two or more items has each on a line of its own.
-/
import MediaLibrary.Toml.Basic

namespace MediaLibrary.Toml

/-! ### Texts -/

/-- The greatest number of times that a character follows itself, where `now` is the
length of the run before. -/
def longestRun (c : Char) (now : Nat) : List Char → Nat
  | [] => now
  | d :: rest => if d = c then longestRun c (now + 1) rest else max now (longestRun c 0 rest)

/-- A control character that can only be written escaped. -/
def needsEscape (c : Char) : Bool :=
  (c.toNat ≤ 0x1f && c ≠ '\t' && c ≠ '\n') || c.toNat = 0x7f

/-- The digits of a number below 65536 in four hexadecimal digits. -/
def fourDigits (n : Nat) : List Char :=
  [n / 4096, n / 256, n / 16, n].map fun d => (Nat.digitChar (d % 16)).toUpper

/-- A character inside double quotes. -/
def escape (c : Char) : List Char :=
  match c with
  | '\x08' => ['\\', 'b']
  | '\t' => ['\\', 't']
  | '\n' => ['\\', 'n']
  | '\x0c' => ['\\', 'f']
  | '\r' => ['\\', 'r']
  | '"' => ['\\', '"']
  | '\\' => ['\\', '\\']
  | c => if needsEscape c then ['\\', 'u'] ++ fourDigits c.toNat else [c]

/-- A text inside three double quotes, where `quotes` of them stand in front unescaped.
Lines are broken as they are, and a third quote in a row is escaped. -/
def escapeLong (quotes : Nat) : List Char → List Char
  | [] => []
  | '\n' :: rest => '\n' :: escapeLong 0 rest
  | '"' :: rest =>
    if quotes < 2 then '"' :: escapeLong (quotes + 1) rest
    else ['\\', '"'] ++ escapeLong 0 rest
  | c :: rest => escape c ++ escapeLong 0 rest

/-- A text between two marks. -/
def between (quote : String) (firstLine : Bool) (inner : List Char) : String :=
  quote ++ (if firstLine then "\n" else "") ++ String.ofList inner ++ quote

/-- A text in quotes. -/
def quoted (s : String) : String :=
  let cs := s.toList
  let lines := cs.contains '\n'
  let control := cs.any needsEscape
  let backslash := cs.contains '\\'
  let double := longestRun '"' 0 cs
  let single := longestRun '\'' 0 cs
  if !control && !backslash && double = 0 && !lines then between "\"" false (cs.flatMap escape)
  else if !control && single = 0 && !lines then between "'" false cs
  else if !control && !backslash && double ≤ 2 then between "\"\"\"" lines (escapeLong 0 cs)
  else if !control && single ≤ 2 then between "'''" lines cs
  else if lines then between "\"\"\"" true (escapeLong 0 cs)
  else between "\"" false (cs.flatMap escape)

/-- A name, in quotes if it needs them. -/
def nameText (s : String) : String :=
  let cs := s.toList
  let control := cs.any fun c => needsEscape c || c = '\n'
  if !cs.isEmpty && cs.all isBare then s
  else if !control && !cs.contains '\\' && !cs.contains '"' then between "\"" false (cs.flatMap escape)
  else if !control && !cs.contains '\'' then between "'" false cs
  else between "\"" false (cs.flatMap escape)

/-! ### Arrays and entries -/

/-- An array of written items. -/
def arrayText : List String → String
  | [] => "[]"
  | [item] => "[" ++ item ++ "]"
  | items => "[" ++ String.join (items.map fun item => "\n    " ++ item ++ ",") ++ "\n]"

/-- The line of an entry whose value is written. -/
def entryLine (name value : String) : String :=
  nameText name ++ " = " ++ value ++ "\n"

end MediaLibrary.Toml
