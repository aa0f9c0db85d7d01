/-
The library.

A library joins a store of records, the catalog of their properties, the layers of one
view, and the results that are remembered between views.  Its operations are programs in
`LibraryM`: each reads the library, changes it step by step, and may be refused at any
step.  What was changed before a refusal stays changed, so an operation that is to be
refused as a whole has to be refused before its first change.
-/
import MediaLibrary.Grouping.Memo
import MediaLibrary.Moves.Memo
import MediaLibrary.Store.Plan
import MediaLibrary.View.Page
import MediaLibrary.View.Parameters

namespace MediaLibrary

/-- The results that are remembered between views. -/
structure Caches where
  groups : GroupMemo := {}
  moves : MoveMemo := {}

instance : Invalidate Caches where
  invalidate c := ⟨c.groups.invalidate, c.moves.invalidate⟩

/-- Why an operation of the library is refused. -/
inductive LibraryError where
  | store (error : StoreError)
  | schema (error : SchemaError)
  | query (error : QueryError)
  | view (error : ViewError)
  | parameters (error : ParametersError)
  | notCandidate (source destination : RecordId)
  deriving DecidableEq

namespace LibraryError

/-- The sentence about a refusal. -/
def message : LibraryError → String
  | store error => s!"Database error: {error.message}"
  | schema error => error.message
  | query error => s!"Query error: {error.message}"
  | view error => s!"View error: {error.message}"
  | parameters error => s!"Parameter error: {error.message}"
  | notCandidate source destination =>
    s!"Invalid input: record {destination.toNat} is not a move candidate of record {source.toNat}"

end LibraryError

/-- A library. -/
structure Library where
  store : Store
  catalog : Catalog
  parameters : Parameters Caches

namespace Library

/-- The library on a store, with the definitions kept there and the given layers. -/
def ofStore (store : Store) (layers : Layers := .default) : Library :=
  { store
    catalog := .ofDefinitions store.loadDefinitions
    parameters := ⟨layers, {}⟩ }

/-- The library without records and definitions. -/
def empty : Library := ofStore .empty

/-- The layers of the view. -/
def layers (l : Library) : Layers := l.parameters.layers

end Library

/-- An operation of the library. -/
abbrev LibraryM := EStateM LibraryError Library

namespace LibraryM

/-- Goes on with a result, or is refused with its error. -/
def check {ε α : Type} (cause : ε → LibraryError) : Except ε α → LibraryM α
  | .ok a => pure a
  | .error e => throw (cause e)

/-- Stores a record; answers with its identifier. -/
def storeRecord (r : Record) : LibraryM RecordId := do
  let (id, store) ← check .store ((← get).store.insert r)
  modify fun l => { l with store }
  return id

/-- Changes the store and answers with what the change answers. -/
def changeStore {α : Type} (change : Store → α × Store) : LibraryM α :=
  modifyGet fun l =>
    let (a, store) := change l.store
    (a, { l with store })

/-- Changes the layers and the remembered results. -/
def changeParameters (change : Parameters Caches → Parameters Caches) : LibraryM Unit :=
  modify fun l => { l with parameters := change l.parameters }

/-- Forgets the remembered results. -/
def forceUpdate : LibraryM Unit :=
  changeParameters Parameters.forceUpdate

end LibraryM

end MediaLibrary
