/-
Reverse indices.

An index leads from a key to the records that have it.  A key without records has no
entry.
-/
import MediaLibrary.Store.IdList
import Std.Data.ExtTreeMap

namespace MediaLibrary

open Std

/-- The records of each key. -/
abbrev Index (κ : Type) [Ord κ] [TransOrd κ] := ExtTreeMap κ IdList

namespace Index

variable {κ : Type} [Ord κ] [TransOrd κ]

/-- The index with a record under a key. -/
def add (index : Index κ) (id : RecordId) (key : κ) : Index κ :=
  index.insert key ((index.getD key .empty).insert id).2

/-- The index without a record under a key. -/
def drop (index : Index κ) (id : RecordId) (key : κ) : Index κ :=
  match index[key]? with
  | none => index
  | some list =>
    let rest := (list.remove id).2
    if rest.isEmpty then index.erase key else index.insert key rest

/-- The index with a record under some keys. -/
def addAll (index : Index κ) (id : RecordId) (keys : List κ) : Index κ :=
  keys.foldl (fun index key => index.add id key) index

/-- The index without a record under some keys. -/
def dropAll (index : Index κ) (id : RecordId) (keys : List κ) : Index κ :=
  keys.foldl (fun index key => index.drop id key) index

/-- The records of a key. -/
def lookup (index : Index κ) (key : κ) : IdSet :=
  (index.getD key .empty).toSet

end Index

end MediaLibrary
