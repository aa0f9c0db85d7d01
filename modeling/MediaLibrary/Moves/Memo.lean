/-
The remembered index of moved files.

The index takes a pass over all records, so it is made when it is first asked for and
kept until the records change.  If the records cannot be read, nothing is kept.
-/
import MediaLibrary.Moves.Index

namespace MediaLibrary

/-- The index, if it has been made since the last change. -/
structure MoveMemo where
  index : Option MoveIndex := none
  deriving DecidableEq

namespace MoveMemo

/-- Whether an index is kept. -/
def isBuilt (m : MoveMemo) : Bool := m.index.isSome

/-- The kept index, or else that of the records, which is then kept. -/
def indexOf (m : MoveMemo) (records : List Record) : MoveIndex × MoveMemo :=
  match m.index with
  | some index => (index, m)
  | none =>
    let index := MoveIndex.ofRecords records
    (index, ⟨some index⟩)

/-- The kept index, or else that of the records that are read for it. -/
def indexWith {ε : Type} (m : MoveMemo) (read : Unit → Except ε (List Record)) :
    Except ε MoveIndex × MoveMemo :=
  match m.index with
  | some index => (.ok index, m)
  | none =>
    match read () with
    | .error e => (.error e, m)
    | .ok records =>
      let (index, m) := m.indexOf records
      (.ok index, m)

/-- Forgets the index. -/
def invalidate (_ : MoveMemo) : MoveMemo := ⟨none⟩

end MoveMemo

end MediaLibrary
