/-
JSON texts read.

The grammar is the strict one: no comments, no trailing commas, no leading zeros, and only
space, tab, line feed and carriage return between tokens.

A value may follow the grammar and still be unreadable: a number beyond the largest float,
a text with half of a pair of surrogates, an object with such a name, and what is nested
more than 127 levels deep.  Readers of types refuse it, but pass over it with all else
that they do not ask for.
-/
import MediaLibrary.Json.Number
import MediaLibrary.Text.Hexadecimal

namespace MediaLibrary.Json

open Text

/-! ### Texts -/

/-- Four hexadecimal digits. -/
def unit? : List Char → Option (Nat × List Char)
  | a :: b :: c :: d :: rest => do return (← hexValue? [a, b, c, d], rest)
  | _ => none

/-- The second half of a pair of units, if it comes next. -/
def lowUnit? : List Char → Option (Nat × List Char)
  | '\\' :: 'u' :: rest => (unit? rest).filter fun (low, _) => 0xDC00 ≤ low && low ≤ 0xDFFF
  | _ => none

/-- The character of an escape by number, after its `u`.  A character beyond the first
65536 takes two of them; half of such a pair is no character. -/
def unicodeEscape? (cs : List Char) : Option (Option Char × List Char) := do
  let (high, rest) ← unit? cs
  if 0xD800 ≤ high ∧ high ≤ 0xDBFF then
    match lowUnit? rest with
    | some (low, rest) =>
      some (some (Char.ofNat (0x10000 + (high - 0xD800) * 0x400 + (low - 0xDC00))), rest)
    | none => some (none, rest)
  else if 0xDC00 ≤ high ∧ high ≤ 0xDFFF then some (none, rest)
  else some (some (Char.ofNat high), rest)

/-- The character of an escape, after its backslash. -/
def escaped? : List Char → Option (Option Char × List Char)
  | '"' :: rest => some (some '"', rest)
  | '\\' :: rest => some (some '\\', rest)
  | '/' :: rest => some (some '/', rest)
  | 'b' :: rest => some (some '\x08', rest)
  | 'f' :: rest => some (some '\x0c', rest)
  | 'n' :: rest => some (some '\n', rest)
  | 'r' :: rest => some (some '\r', rest)
  | 't' :: rest => some (some '\t', rest)
  | 'u' :: rest => unicodeEscape? rest
  | _ => none

/-- A text after its opening quote, or nothing for a text that is unreadable; `read` holds
the characters before, the latest first.  Each step takes a character at least, so as much
fuel as there are characters suffices. -/
def text? : (fuel : Nat) → (read : Option (List Char)) → List Char →
    Option (Option String × List Char)
  | 0, _, _ => none
  | _ + 1, _, [] => none
  | fuel + 1, read, c :: rest =>
    if c = '"' then some (read.map fun cs => String.ofList cs.reverse, rest)
    else if c = '\\' then
      match escaped? rest with
      | none => none
      | some (d, rest) => text? fuel (d.bind fun d => read.map (d :: ·)) rest
    else if c.toNat < 0x20 then none
    else text? fuel (read.map (c :: ·)) rest

/-- A text after its opening quote. -/
def quotedText? (cs : List Char) : Option (Option String × List Char) :=
  text? cs.length (some []) cs

/-! ### Values without brackets -/

/-- What may stand between tokens. -/
def isSpace (c : Char) : Bool :=
  c = ' ' || c = '\n' || c = '\t' || c = '\r'

/-- The characters from the next token on. -/
def skip (cs : List Char) : List Char :=
  cs.dropWhile isSpace

/-- The characters after a word that has to come next. -/
def word? : List Char → List Char → Option (List Char)
  | [], cs => some cs
  | _ :: _, [] => none
  | w :: word, c :: cs => if w = c then word? word cs else none

/-- A value that has no parts, at the start of a token. -/
def plain? : List Char → Option (Json × List Char)
  | 'n' :: rest => (word? ['u', 'l', 'l'] rest).map (null, ·)
  | 't' :: rest => (word? ['r', 'u', 'e'] rest).map (bool true, ·)
  | 'f' :: rest => (word? ['a', 'l', 's', 'e'] rest).map (bool false, ·)
  | '"' :: rest => (quotedText? rest).map fun (s, rest) => (s.elim unreadable str, rest)
  | cs => (NumberParts.read? cs).map fun (n, rest) => (n.number?.elim unreadable number, rest)

/-! ### Passing over values -/

/-- What comes next in a value that is passed over. -/
inductive Awaited where
  | value
  | name
  | ending

/-- What follows a value that is passed over; `inside` tells of each open bracket whether
it is one of an object, the innermost first.  Each step takes a character at least. -/
def pass? : (fuel : Nat) → Awaited → (inside : List Bool) → List Char → Option (List Char)
  | 0, _, _, _ => none
  | fuel + 1, .value, inside, cs =>
    match skip cs with
    | '[' :: rest =>
      match skip rest with
      | ']' :: rest => pass? fuel .ending inside rest
      | rest => pass? fuel .value (false :: inside) rest
    | '\x7b' :: rest =>
      match skip rest with
      | '\x7d' :: rest => pass? fuel .ending inside rest
      | rest => pass? fuel .name (true :: inside) rest
    | cs =>
      match plain? cs with
      | some (_, rest) => pass? fuel .ending inside rest
      | none => none
  | fuel + 1, .name, inside, cs =>
    match skip cs with
    | '"' :: rest =>
      match quotedText? rest with
      | some (_, rest) =>
        match skip rest with
        | ':' :: rest => pass? fuel .value inside rest
        | _ => none
      | none => none
    | _ => none
  | _ + 1, .ending, [], cs => some cs
  | fuel + 1, .ending, isObject :: inside, cs =>
    match isObject, skip cs with
    | false, ',' :: rest => pass? fuel .value (false :: inside) rest
    | false, ']' :: rest => pass? fuel .ending inside rest
    | true, ',' :: rest => pass? fuel .name (true :: inside) rest
    | true, '\x7d' :: rest => pass? fuel .ending inside rest
    | _, _ => none

/-- What follows a value that is passed over. -/
def passOver? (cs : List Char) : Option (List Char) :=
  pass? (2 * cs.length + 2) .value [] cs

/-! ### Values -/

/-- A member whose name is readable. -/
def readableMember? (member : Option String × Json) : Option (String × Json) :=
  member.1.map (·, member.2)

/-- An object, unless one of its names is unreadable. -/
def ofMembers (members : List (Option String × Json)) : Json :=
  (members.mapM readableMember?).elim unreadable obj

mutual

/-- A value.  `depth` is the number of further levels of brackets that are readable. -/
def value? : (fuel depth : Nat) → List Char → Option (Json × List Char)
  | 0, _, _ => none
  | fuel + 1, depth, cs =>
    match depth, skip cs with
    | 0, '[' :: rest => (passOver? ('[' :: rest)).map (unreadable, ·)
    | 0, '\x7b' :: rest => (passOver? ('\x7b' :: rest)).map (unreadable, ·)
    | depth + 1, '[' :: rest =>
      match skip rest with
      | ']' :: rest => some (arr [], rest)
      | rest => items? fuel depth [] rest
    | depth + 1, '\x7b' :: rest =>
      match skip rest with
      | '\x7d' :: rest => some (obj [], rest)
      | rest => members? fuel depth [] rest
    | _, cs => plain? cs

/-- The items of an array from the next one on; `read` holds those before, the latest
first. -/
def items? : (fuel depth : Nat) → (read : List Json) → List Char → Option (Json × List Char)
  | 0, _, _, _ => none
  | fuel + 1, depth, read, cs =>
    match value? fuel depth cs with
    | none => none
    | some (j, rest) =>
      match skip rest with
      | ',' :: rest => items? fuel depth (j :: read) rest
      | ']' :: rest => some (arr (j :: read).reverse, rest)
      | _ => none

/-- The members of an object from the next one on; `read` holds those before, the
latest first. -/
def members? : (fuel depth : Nat) → (read : List (Option String × Json)) → List Char →
    Option (Json × List Char)
  | 0, _, _, _ => none
  | fuel + 1, depth, read, cs =>
    match skip cs with
    | '"' :: rest =>
      match quotedText? rest with
      | none => none
      | some (name, rest) =>
        match skip rest with
        | ':' :: rest =>
          match value? fuel depth rest with
          | none => none
          | some (j, rest) =>
            match skip rest with
            | ',' :: rest => members? fuel depth ((name, j) :: read) rest
            | '\x7d' :: rest => some (ofMembers ((name, j) :: read).reverse, rest)
            | _ => none
        | _ => none
    | _ => none

end

/-- The levels of brackets that may be nested. -/
def maxDepth : Nat := 127

/-- The value that a text writes, if it writes one and nothing else. -/
def read? (s : String) : Option Json :=
  let cs := s.toList
  match value? (2 * cs.length + 1) maxDepth cs with
  | none => none
  | some (j, rest) => if (skip rest).isEmpty then some j else none

/-- The value that a text writes, if no part of it is unreadable. -/
def readAll? (s : String) : Option Json :=
  (read? s).filter isReadable

example : ((read? " [1, -2.5e1, \"a\\u00e9\"] ").bind toList? |>.map List.length) = some 3 := by
  decide +kernel
example : (read? "[1e999]").isSome ∧ (readAll? "[1e999]").isNone ∧ (read? "[1e]").isNone := by
  decide +kernel

end MediaLibrary.Json
