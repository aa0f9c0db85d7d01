/-
JSON values.

A number is kept in one of three forms: a whole number that is not negative, a
negative one, or a float.  The form matters, since a whole number and a float are
different property values.  An object keeps its members in the order in which they
were written, repeated names included; readers of objects decide what a repeated
name means.
-/
import MediaLibrary.Binary64.Layout

namespace MediaLibrary

/-- A number as written in JSON. -/
inductive JsonNumber where
  | natural (n : UInt64)
  | negative (i : Int64)
  | float (x : Binary64)
  deriving DecidableEq

/-- A JSON value. -/
inductive Json where
  | null
  | bool (b : Bool)
  | number (n : JsonNumber)
  | str (s : String)
  | arr (items : List Json)
  | obj (members : List (String × Json))
  /-- a value that could be written but not be read -/
  | unreadable

namespace Json

instance : Inhabited Json := ⟨null⟩

/-- A whole number that is not negative. -/
def ofUInt64 (n : UInt64) : Json := number (.natural n)

/-- A number of things. -/
def ofNat (n : Nat) : Json := ofUInt64 (UInt64.ofNat n)

/-- A whole number of 32 bits. -/
def ofUInt32 (n : UInt32) : Json := number (.natural n.toUInt64)

/-- A signed whole number. -/
def ofInt64 (i : Int64) : Json :=
  if 0 ≤ i then number (.natural i.toUInt64) else number (.negative i)

/-- A float; what is no finite number has no JSON form and becomes null. -/
def ofBinary64 (x : Binary64) : Json :=
  if x.isFinite then number (.float x) else null

/-- A list of texts. -/
def ofStrings (texts : List String) : Json := arr (texts.map str)

/-- A value that may be missing, in which case it is null. -/
def ofOption {α : Type} (f : α → Json) : Option α → Json
  | none => null
  | some a => f a

/-- A whole number that fits in 64 bits without a sign. -/
def toUInt64? : Json → Option UInt64
  | number (.natural n) => some n
  | _ => none

/-- A whole number that fits in 32 bits without a sign. -/
def toUInt32? : Json → Option UInt32
  | number (.natural n) => if n.toNat < UInt32.size then some n.toUInt32 else none
  | _ => none

/-- A whole number that fits in 64 bits with a sign. -/
def toInt64? : Json → Option Int64
  | number (.natural n) => Text.int64OfInt? n.toNat
  | number (.negative i) => some i
  | _ => none

/-- A number in any form, as a float. -/
def toBinary64? : Json → Option Binary64
  | number (.natural n) => some (Binary64.ofNat n.toNat)
  | number (.negative i) => some (Binary64.ofInt i.toInt)
  | number (.float x) => some x
  | _ => none

/-- A truth value. -/
def toBool? : Json → Option Bool
  | bool b => some b
  | _ => none

/-- A text. -/
def toString? : Json → Option String
  | str s => some s
  | _ => none

/-- The items of an array. -/
def toList? : Json → Option (List Json)
  | arr items => some items
  | _ => none

/-- The value of a member; of several with the name, the last. -/
def member? (name : String) (members : List (String × Json)) : Option Json :=
  (members.reverse.find? fun m => m.1 = name).map Prod.snd

/-- The value of a member of an object. -/
def get? (name : String) : Json → Option Json
  | obj members => member? name members
  | _ => none

/-- How often a name occurs among the members. -/
def countMember (name : String) (members : List (String × Json)) : Nat :=
  members.countP fun m => m.1 = name

mutual

/-- The value with each repeated member of an object reduced to its last
occurrence, at every depth. -/
def lastMembers : Json → Json
  | arr items => arr (lastMembersList items)
  | obj members => obj (lastMembersPairs members)
  | j => j

/-- The same for each of some items. -/
def lastMembersList : List Json → List Json
  | [] => []
  | j :: rest => lastMembers j :: lastMembersList rest

/-- The last member of each name, with the same done to its value. -/
def lastMembersPairs : List (String × Json) → List (String × Json)
  | [] => []
  | (name, j) :: rest =>
    if rest.any (·.1 = name) then lastMembersPairs rest
    else (name, lastMembers j) :: lastMembersPairs rest

end

mutual

/-- A value without unreadable parts. -/
def isReadable : Json → Bool
  | arr items => areReadableItems items
  | obj members => areReadableMembers members
  | unreadable => false
  | _ => true

/-- Items without unreadable parts. -/
def areReadableItems : List Json → Bool
  | [] => true
  | j :: rest => isReadable j && areReadableItems rest

/-- Members without unreadable parts. -/
def areReadableMembers : List (String × Json) → Bool
  | [] => true
  | (_, j) :: rest => isReadable j && areReadableMembers rest

end

/-- A member put in its place among members sorted by name. -/
def placeMember (name : String) (j : Json) : List (String × Json) → List (String × Json)
  | [] => [(name, j)]
  | (first, k) :: rest =>
    if name ≤ first then (name, j) :: (first, k) :: rest
    else (first, k) :: placeMember name j rest

mutual

/-- The value with the members of objects sorted by name, at every depth. -/
def sorted : Json → Json
  | arr items => arr (sortedItems items)
  | obj members => obj (sortedMembers members)
  | j => j

/-- The same for each of some items. -/
def sortedItems : List Json → List Json
  | [] => []
  | j :: rest => sorted j :: sortedItems rest

/-- Some members sorted by name, with the same done to their values. -/
def sortedMembers : List (String × Json) → List (String × Json)
  | [] => []
  | (name, j) :: rest => placeMember name (sorted j) (sortedMembers rest)

end

end Json

end MediaLibrary
