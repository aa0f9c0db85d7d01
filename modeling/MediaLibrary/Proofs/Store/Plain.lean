/-
The store without its indices.

What a store is for can be said without indices: it is a map from identifiers to records,
a map of definitions and a counter, and each question about the records is answered by
going through all of them.  `PlainStore` is that store.  It has the same operations,
written over the map alone, and is what the indexed store is measured against.

`StoreOperation` lists the ways to change a store, and `afterAll` follows a run of them from
the empty store; an operation that is refused leaves the store as it was.  Opening a store
again rebuilds it from what is kept of it outside, which does not include the indices.  On a
store that was reached in this way nothing comes of it (`Store.Sound.ofParts_eq`), so it is the
same as opening a store with indices that were kept.
-/
import MediaLibrary.Store.Image

namespace MediaLibrary

open Std

/-- A change of a store. -/
inductive StoreOperation where
  | insert (r : Record)
  | remove (id : RecordId)
  | setValues (ids : List RecordId) (property : String) (values : List Value)
  | applyChange (change : CatalogChange)
  | saveDefinition (d : Definition)
  | deleteDefinition (name : String)
  | clear
  | reopen

/-- What a change of a store answers with. -/
inductive StoreAnswer where
  | stored (id : RecordId)
  | existed (found : Bool)
  | changed (count : Nat)
  | done
  deriving DecidableEq

/-! ### The store -/

namespace Store

/-- Carries out an operation. -/
def perform (s : Store) : StoreOperation → Except StoreError (StoreAnswer × Store)
  | .insert r => (s.insert r).map fun (id, s) => (.stored id, s)
  | .remove id => .ok (.existed (s.remove id).1, (s.remove id).2)
  | .setValues ids property values =>
    (s.setValues ids property values).map fun (count, s) => (.changed count, s)
  | .applyChange change => (s.applyChange change).map fun (count, s) => (.changed count, s)
  | .saveDefinition d => .ok (.done, s.saveDefinition d)
  | .deleteDefinition name =>
    .ok (.existed (s.deleteDefinition name).1, (s.deleteDefinition name).2)
  | .clear => .ok (.done, empty)
  -- the indices are built again, and come out as they were: `Sound.ofParts_eq`
  | .reopen => .ok (.done, ofParts s.nextId s.loadDefinitions s.toList)

/-- The store after an operation, be it carried out or refused. -/
def after (s : Store) (operation : StoreOperation) : Store :=
  match s.perform operation with
  | .ok (_, s) => s
  | .error _ => s

/-- The store after some operations on the empty one. -/
def afterAll (operations : List StoreOperation) : Store :=
  operations.foldl after empty

end Store

/-! ### The store without indices -/

/-- Records by identifier, definitions by name, and the next identifier. -/
structure PlainStore where
  records : ExtTreeMap RecordId Record := ∅
  definitions : ExtTreeMap String Definition := ∅
  nextId : RecordId := 1

namespace PlainStore

/-- The records in the order of their identifiers. -/
def toList (p : PlainStore) : List Record := p.records.toList.map Prod.snd

/-- The identifiers of the records that meet a condition, in their order. -/
def idsWhere (p : PlainStore) (holds : Record → Bool) : List RecordId :=
  (p.toList.filter holds).map (·.id)

/-- The identifiers of the records that meet a condition. -/
def setWhere (p : PlainStore) (holds : Record → Bool) : IdSet :=
  .ofList (p.idsWhere holds) compare

/-- The values that records hold for a property, each with the number of its records. -/
def valueCounts (p : PlainStore) (property : String) : List (Value × Nat) :=
  (ExtTreeSet.ofList (p.toList.flatMap (·.values property)) compare).toList.map fun value =>
    (value, (p.idsWhere fun r => value ∈ r.values property).length)

/-- The greatest number of values that a record holds for a property. -/
def maxValueCount (p : PlainStore) (property : String) : Nat :=
  p.toList.foldl (fun most r => max most (r.values property).length) 0

/-- Whether a record holds a value for a property. -/
def holds (property : String) (r : Record) : Bool := !(r.values property).isEmpty

/-- The store in which some records are changed. -/
def edit (p : PlainStore) (which : Record → Bool) (change : Record → Record) : PlainStore :=
  { p with records := p.records.map fun _ r => if which r then change r else r }

/-- A record of an edited store is one of the store before, as the edit leaves it. -/
theorem getElem?_edit (p : PlainStore) (which : Record → Bool) (change : Record → Record)
    (id : RecordId) :
    (p.edit which change).records[id]? =
      p.records[id]?.map fun r => if which r then change r else r :=
  ExtTreeMap.getElem?_map

theorem toList_edit (p : PlainStore) (which : Record → Bool) (change : Record → Record) :
    (p.edit which change).toList = p.toList.map fun r => if which r then change r else r := by
  rw [toList, toList, edit, ExtTreeMap.toList_map, List.map_map, List.map_map]
  rfl

/-- Stores a record under its identifier, or under the next one if it has none.  The highest
identifier of all cannot be given away. -/
def insert (p : PlainStore) (r : Record) : Except StoreError (RecordId × PlainStore) :=
  let id := if r.id = 0 then p.nextId else r.id
  if r.path.isEmpty then .error .emptyPath
  else if id.toNat + 1 = UInt64.size then .error (.idOutOfRange id)
  else
    let nextId := if id < p.nextId then p.nextId else id + 1
    .ok (id, { p with records := p.records.insert id { r with id }, nextId })

/-- Removes a record; answers whether there was one. -/
def remove (p : PlainStore) (id : RecordId) : Bool × PlainStore :=
  (p.records.contains id, { p with records := p.records.erase id })

/-- Sets the values of a property in some records.  The lowest identifier without a record is
the reason why nothing is changed. -/
def setValues (p : PlainStore) (ids : List RecordId) (property : String) (values : List Value) :
    Except StoreError (Nat × PlainStore) :=
  let ids : IdSet := .ofList ids compare
  match ids.toList.find? (!p.records.contains ·) with
  | some id => .error (.recordNotFound id)
  | none => .ok (ids.size, p.edit (ids.contains ·.id) (·.setValues property values))

/-- Makes the records follow a change of the catalog. -/
def applyChange (p : PlainStore) : CatalogChange → Except StoreError (Nat × PlainStore)
  | .defined _ => .ok (0, p)
  | .multiplicity name multiple =>
    let most := p.maxValueCount name
    if multiple || most ≤ 1 then .ok (0, p)
    else .error (.schema (.invalidValue name s!"{most} values" .severalHeld))
  | .renamed old new =>
    .ok ((p.idsWhere (holds old)).length, p.edit (holds old) (Store.renameIn old new))
  | .removed name =>
    .ok ((p.idsWhere (holds name)).length, p.edit (holds name) (·.setValues name []))

/-- Carries out an operation. -/
def perform (p : PlainStore) : StoreOperation → Except StoreError (StoreAnswer × PlainStore)
  | .insert r => (p.insert r).map fun (id, p) => (.stored id, p)
  | .remove id => .ok (.existed (p.remove id).1, (p.remove id).2)
  | .setValues ids property values =>
    (p.setValues ids property values).map fun (count, p) => (.changed count, p)
  | .applyChange change => (p.applyChange change).map fun (count, p) => (.changed count, p)
  | .saveDefinition d => .ok (.done, { p with definitions := p.definitions.insert d.name d })
  | .deleteDefinition name =>
    .ok (.existed (p.definitions.contains name),
      { p with definitions := p.definitions.erase name })
  | .clear => .ok (.done, {})
  | .reopen => .ok (.done, p)

/-- The store after an operation, be it carried out or refused. -/
def after (p : PlainStore) (operation : StoreOperation) : PlainStore :=
  match p.perform operation with
  | .ok (_, p) => p
  | .error _ => p

/-- The store after some operations on the empty one. -/
def afterAll (operations : List StoreOperation) : PlainStore :=
  operations.foldl after {}

end PlainStore

/-- What a store keeps besides its indices. -/
def Store.plain (s : Store) : PlainStore := ⟨s.records, s.definitions, s.nextId⟩

end MediaLibrary
