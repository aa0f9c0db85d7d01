/-
Files that have moved.

A record whose file is missing and a record of a file that was found are probably one
and the same when the files have the same size and the same duration.  The index pairs
every missing record with the found records of its fingerprint.  Records that cannot be
read take no part in it.

A fingerprint shared by a missing and a found record makes a move group.  All readable
records of a move group carry its label.
-/
import MediaLibrary.Record.Basic

namespace MediaLibrary

open Std

/-- What a file keeps when it is moved. -/
structure Fingerprint where
  size : UInt64
  duration : UInt64
  timeBase : UInt64
  deriving DecidableEq

namespace Fingerprint

/-- The fingerprint of a record. -/
def ofRecord (r : Record) : Fingerprint :=
  ⟨r.size, r.duration, r.timeBase⟩

/-- The text by which a fingerprint is shown. -/
def text (f : Fingerprint) : String :=
  s!"{f.size}, {f.duration}/{f.timeBase}"

instance : ToString Fingerprint := ⟨text⟩

/-- The order of fingerprints: by size, then duration, then time base. -/
def order : Fingerprint → Fingerprint → Ordering :=
  compareLex (compareOn size) (compareLex (compareOn duration) (compareOn timeBase))

instance : Ord Fingerprint := ⟨order⟩

instance : TransOrd Fingerprint :=
  inferInstanceAs (TransCmp
    (compareLex (compareOn size) (compareLex (compareOn duration) (compareOn timeBase))))

theorem eq_of_order {a b : Fingerprint} (h : order a b = .eq) : a = b := by
  have bySize := Ordering.then_eq_eq.mp h
  have byRest := Ordering.then_eq_eq.mp bySize.2
  have size : a.size = b.size := LawfulEqOrd.eq_of_compare bySize.1
  have duration : a.duration = b.duration := LawfulEqOrd.eq_of_compare byRest.1
  have timeBase : a.timeBase = b.timeBase := LawfulEqOrd.eq_of_compare byRest.2
  cases a; cases b; simp_all

instance : LawfulEqOrd Fingerprint where
  eq_of_compare h := eq_of_order h

end Fingerprint

/-- A found record that a missing one may have become. -/
structure MoveDestination where
  recordId : RecordId
  path : String
  deriving DecidableEq

/-- The destination that a found record is. -/
def MoveDestination.ofRecord (r : Record) : MoveDestination :=
  ⟨r.id, r.path⟩

/-- The missing records with their destinations, and the records of move groups with
the label of their group. -/
structure MoveIndex where
  destinations : ExtTreeMap RecordId (List MoveDestination)
  labels : ExtTreeMap RecordId String
  deriving DecidableEq

namespace MoveIndex

/-- The index without records. -/
def empty : MoveIndex := ⟨∅, ∅⟩

/-- Records by fingerprint, those of one fingerprint in the order given. -/
def byFingerprint (records : List Record) : ExtTreeMap Fingerprint (List Record) :=
  records.foldr (fun r all =>
    all.insert (Fingerprint.ofRecord r) (r :: all.getD (Fingerprint.ofRecord r) [])) ∅

/-- The index with one more move group. -/
def addGroup (index : MoveIndex) (label : String) (missing found : List Record) : MoveIndex :=
  let destinations := found.map MoveDestination.ofRecord
  { destinations := missing.foldl (fun all r => all.insert r.id destinations) index.destinations
    labels := (missing ++ found).foldl (fun all r => all.insert r.id label) index.labels }

/-- The index of some records.  Destinations are listed in the order of their
identifiers. -/
def ofRecords (records : List Record) : MoveIndex :=
  let readable := records.filter (·.flags.readable)
  let missing := byFingerprint (readable.filter (!·.flags.found))
  let found := byFingerprint
    ((readable.filter (·.flags.found)).mergeSort fun a b => a.id ≤ b.id)
  missing.toList.foldl (fun index (fingerprint, missing) =>
    match found[fingerprint]? with
    | some found => index.addGroup fingerprint.text missing found
    | none => index) empty

/-- The found records that a missing record may have become. -/
def candidates (index : MoveIndex) (id : RecordId) : List MoveDestination :=
  index.destinations.getD id []

/-- The label of the move group to which a record belongs. -/
def label? (index : MoveIndex) (id : RecordId) : Option String :=
  index.labels[id]?

/-- Whether no record has a destination. -/
def isEmpty (index : MoveIndex) : Bool :=
  index.destinations.isEmpty

/-- The missing records with their labels and destinations. -/
def toList (index : MoveIndex) : List (RecordId × Option String × List MoveDestination) :=
  index.destinations.toList.map fun (id, destinations) => (id, index.label? id, destinations)

end MoveIndex

end MediaLibrary
