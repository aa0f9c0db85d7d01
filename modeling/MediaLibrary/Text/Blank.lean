/-
Blank characters, and text without its blank ends.

Names, values and paths are read from what a person typed, so almost every reader
of this library first drops the blanks around its text.  Blank is meant in the
wide sense: the space, the control characters that move the cursor, and every
separator of the Unicode property `White_Space`.  The zero-width space U+200B and
the byte order mark U+FEFF are not in that property and stay.

Texts are handled as lists of characters, so that cutting and joining can be
reasoned about by induction; the functions on `String` only wrap the list ones.
-/

namespace MediaLibrary.Text

/-- Whether a code point lies in one of the ranges.  The ranges are given in
ascending order, so the search stops at the first one that begins above it. -/
def inRanges : List (Nat × Nat) → Nat → Bool
  | [], _ => false
  | (first, last) :: rest, n =>
    if n < first then false else if n ≤ last then true else inRanges rest n

/-- The ranges of the property `White_Space`. -/
def blankRanges : List (Nat × Nat) :=
  [(0x9, 0xD), (0x20, 0x20), (0x85, 0x85), (0xA0, 0xA0), (0x1680, 0x1680), (0x2000, 0x200A),
    (0x2028, 0x2029), (0x202F, 0x202F), (0x205F, 0x205F), (0x3000, 0x3000)]

/-- A blank character. -/
def isBlank (c : Char) : Bool :=
  inRanges blankRanges c.toNat

/-- A list of characters without the blanks it begins and ends with. -/
def trimChars (cs : List Char) : List Char :=
  ((cs.dropWhile isBlank).reverse.dropWhile isBlank).reverse

/-- A text without the blanks it begins and ends with. -/
def trim (s : String) : String :=
  String.ofList (trimChars s.toList)

/-- Nothing but blanks, or nothing at all. -/
def isBlankText (s : String) : Bool :=
  s.toList.all isBlank

/-- The pieces of a list of characters between occurrences of a separator; one
more piece than there are separators, empty ones included. -/
def splitChars (separator : Char) : List Char → List (List Char)
  | [] => [[]]
  | c :: rest =>
    if c = separator then [] :: splitChars separator rest
    else match splitChars separator rest with
      | [] => [[c]]
      | piece :: pieces => (c :: piece) :: pieces

theorem splitChars_ne_nil (separator : Char) (cs : List Char) : splitChars separator cs ≠ [] := by
  cases cs with
  | nil => simp [splitChars]
  | cons c rest =>
    unfold splitChars
    split
    · simp
    · split <;> simp

/-- The pieces of a text between occurrences of a separator. -/
def split (separator : Char) (s : String) : List String :=
  (splitChars separator s.toList).map String.ofList

example : trim " \t a b\u3000" = "a b" := by decide
example : split '-' "a--b" = ["a", "", "b"] := by decide

end MediaLibrary.Text
