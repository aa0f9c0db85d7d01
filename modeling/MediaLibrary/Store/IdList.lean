/-
Lists of record identifiers.

An entry of an index lists records by their identifiers, in ascending order and each
once.  The place of an identifier is found by halving, which relies on the order.  Both
ways to change a list say whether they changed anything.
-/
import MediaLibrary.Bytes.Basic
import MediaLibrary.Query.Search

namespace MediaLibrary

/-- A list of record identifiers, ascending if made by `insert` and `remove`. -/
structure IdList where
  ids : List RecordId
  deriving DecidableEq

namespace IdList

/-- The list without identifiers. -/
def empty : IdList := ⟨[]⟩

/-- Whether no identifier is listed. -/
def isEmpty (l : IdList) : Bool := l.ids.isEmpty

/-! ### Finding the place of an identifier -/

/-- What a search finds: the position of an identifier, or the one where it belongs. -/
inductive Place where
  | held (position : Nat)
  | missing (position : Nat)
  deriving DecidableEq

/-- Narrows a range of ascending identifiers to the last position that can hold one of them.
The range is halved as long as it has more than one position. -/
def narrow (ids : List RecordId) (id : RecordId) (start size : Nat) : Nat :=
  if size ≤ 1 then start
  else
    let middle := start + size / 2
    if ids[middle]?.any (id < ·) then narrow ids id start (size - size / 2)
    else narrow ids id middle (size - size / 2)
termination_by size

/-- The place of an identifier among ascending ones. -/
def search (ids : List RecordId) (id : RecordId) : Place :=
  let position := narrow ids id 0 ids.length
  match ids[position]? with
  | none => .missing position
  | some other =>
    if other = id then .held position
    else .missing (if other < id then position + 1 else position)

/-! ### Changing a list -/

/-- The list with an identifier, and whether it is new. -/
def insert (l : IdList) (id : RecordId) : Bool × IdList :=
  match search l.ids id with
  | .held _ => (false, l)
  | .missing position => (true, ⟨l.ids.take position ++ id :: l.ids.drop position⟩)

/-- The list without an identifier, and whether it was there. -/
def remove (l : IdList) (id : RecordId) : Bool × IdList :=
  match search l.ids id with
  | .held position => (true, ⟨l.ids.eraseIdx position⟩)
  | .missing _ => (false, l)

/-- The identifiers as a set. -/
def toSet (l : IdList) : IdSet :=
  Std.ExtTreeSet.ofList l.ids compare

/-- The written form of a list. -/
def toBytes (l : IdList) : List UInt8 :=
  Bytes.ofNat l.ids.length ++ l.ids.flatMap fun id => Bytes.ofNat id.toNat

/-- A list of identifiers, in any order. -/
def read : Bytes.Reader IdList := do
  let count ← Bytes.length 8
  return ⟨(← Bytes.times Bytes.natural64 count).map UInt64.ofNat⟩

/-- The list at the front of some bytes. -/
def ofBytes (bytes : List UInt8) : Except Bytes.Fault IdList :=
  Bytes.first read bytes

end IdList

end MediaLibrary
