/-
Operations on the records of a library.

The values of a record pass the catalog before the record reaches the store.  A batch of
new records is checked as a whole before the first of them is stored.  Records that bring
an identifier are stored first, so that no identifier is assigned that a later record of
the batch brings.
-/
import MediaLibrary.Library.Basic

namespace MediaLibrary

/-- A record whose values are those that the catalog admits. -/
def Catalog.validateRecord (c : Catalog) (r : Record) : Except SchemaError Record := do
  let properties ← r.properties.toList.mapM fun (name, raw) =>
    return (name, ← c.validate name raw)
  return properties.foldl (fun r (name, values) => r.setValues name values)
    { r with properties := ∅ }

/-- The identifiers of a batch in its order: those that the records bring, and in
between those that were assigned. -/
def interleaveIds : List Record → List RecordId → List RecordId
  | [], _ => []
  | r :: rest, assigned =>
    if r.id ≠ 0 then r.id :: interleaveIds rest assigned
    else assigned.headD 0 :: interleaveIds rest assigned.tail

namespace Library

/-- The first reason why new records cannot have the identifiers they bring, where `seen`
are those of earlier records. -/
def idProblem? (l : Library) : List RecordId → List RecordId → Option StoreError
  | _, [] => none
  | seen, id :: rest =>
    if id.toNat + 1 = UInt64.size then some (.idOutOfRange id)
    else if id ∈ seen then some (.idRepeated id)
    else if l.store.contains id then some (.idTaken id)
    else l.idProblem? (id :: seen) rest

end Library

namespace LibraryM

/-- Stores new records; answers with their identifiers. -/
def importRecords (records : List Record) : LibraryM (List RecordId) := do
  let l ← get
  if let some problem := l.idProblem? [] ((records.map (·.id)).filter (· ≠ 0)) then
    throw (.store problem)
  let records ← check .schema (records.mapM l.catalog.validateRecord)
  let _ ← (records.filter (·.id ≠ 0)).mapM storeRecord
  let assigned ← (records.filter (·.id = 0)).mapM storeRecord
  forceUpdate
  return interleaveIds records assigned

/-- Stores one new record; answers with its identifier. -/
def insertRecord (r : Record) : LibraryM RecordId :=
  return (← importRecords [r]).headD 0

/-- Puts a record in the place of the one with its identifier. -/
def updateRecord (r : Record) : LibraryM Unit := do
  let l ← get
  let _ ← check .store (l.store.require r.id)
  let r ← check .schema (l.catalog.validateRecord r)
  let _ ← storeRecord r
  forceUpdate

/-- Removes a record; answers whether there was one. -/
def removeRecord (id : RecordId) : LibraryM Bool := do
  let removed ← changeStore (·.remove id)
  if removed then forceUpdate
  return removed

/-- Sets the values of a property in some records; answers with their number. -/
def setTag (ids : List RecordId) (property : String) (raw : List Value) : LibraryM Nat := do
  let l ← get
  let values ← check .schema (l.catalog.validate property raw)
  let (count, store) ← check .store (l.store.setValues ids property values)
  modify fun l => { l with store }
  changeParameters fun p => (p.notifyModified property true).2
  return count

end LibraryM

end MediaLibrary
