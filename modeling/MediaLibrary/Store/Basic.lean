/-
The record store.

The store keeps records by identifier, the definitions of properties by name, and the
next identifier to be assigned.  Two reverse indices lead from tags and from search
terms to the records that hold them.  Every way to write a record goes through `put` or
`remove`, which take the old record out of the indices before the new one goes in, so
the indices always say what a pass over all records would.

An identifier is never assigned twice: the next one is above every identifier that was
ever stored.  An operation that is refused answers without a store, so the caller still
has the one from before.
-/
import MediaLibrary.Property.Catalog
import MediaLibrary.Store.Error
import MediaLibrary.Store.Index
import MediaLibrary.Store.Tag

namespace MediaLibrary

open Std

namespace Record

/-- The tags of a record. -/
def tags (r : Record) : List Tag :=
  r.properties.toList.flatMap fun (property, values) => values.map fun value => ⟨property, value⟩

/-- The terms by which a record is found. -/
def terms (r : Record) : List String :=
  Text.terms r.searchText

end Record

/-- The state of a store. -/
structure Store where
  records : ExtTreeMap RecordId Record := ∅
  tags : Index Tag := ∅
  terms : Index String := ∅
  definitions : ExtTreeMap String Definition := ∅
  nextId : RecordId := 1
  deriving DecidableEq

namespace Store

/-- The store without anything in it. -/
def empty : Store := {}

/-! ### Reading records -/

/-- The record with an identifier. -/
def get? (s : Store) (id : RecordId) : Option Record := s.records[id]?

/-- The record with an identifier that has to be there. -/
def require (s : Store) (id : RecordId) : Except StoreError Record :=
  match s.get? id with
  | some r => .ok r
  | none => .error (.recordNotFound id)

/-- Whether there is a record with an identifier. -/
def contains (s : Store) (id : RecordId) : Bool := s.records.contains id

/-- The records in the order of their identifiers. -/
def toList (s : Store) : List Record := s.records.toList.map Prod.snd

/-- The number of records. -/
def size (s : Store) : Nat := s.records.size

/-- The records with some identifiers, in the order of these.

An identifier without a record is skipped and not refused.  On a sound store none is skipped where
the identifiers come from an index: each of the records may be required, which gives the same list
(`Sound.require_withProperty`).  A pass over all records gives it too (`Sound.recordsOf_eq`).  Any
identifiers that are all in use have one record each (`length_recordsOf`). -/
def recordsOf (s : Store) (ids : IdSet) : List Record :=
  ids.toList.filterMap s.get?

/-! ### Writing records -/

/-- The store whose indices do not list a record. -/
def unindex (s : Store) (r : Record) : Store :=
  { s with
    tags := s.tags.dropAll r.id r.tags
    terms := s.terms.dropAll r.id r.terms }

/-- The store whose indices list a record. -/
def index (s : Store) (r : Record) : Store :=
  { s with
    tags := s.tags.addAll r.id r.tags
    terms := s.terms.addAll r.id r.terms }

/-- The store whose indices do not list the record with an identifier. -/
def unindexId (s : Store) (id : RecordId) : Store :=
  match s.get? id with
  | some old => s.unindex old
  | none => s

/-- The store with a record in the place of any other with its identifier. -/
def put (s : Store) (r : Record) : Store :=
  let s := s.unindexId r.id
  { s with records := s.records.insert r.id r }.index r

/-- The store that assigns no identifier up to the given one.  The highest of all
cannot be given away, for nothing comes after it. -/
def reserve (s : Store) (id : RecordId) : Except StoreError Store :=
  if id < s.nextId then .ok s
  else if id.toNat + 1 < UInt64.size then .ok { s with nextId := id + 1 }
  else .error (.idOutOfRange id)

/-- Stores a record under its identifier, or under the next one if it has none.
Answers with the identifier. -/
def insert (s : Store) (r : Record) : Except StoreError (RecordId × Store) := do
  if r.path.isEmpty then throw .emptyPath
  let id := if r.id = 0 then s.nextId else r.id
  let s ← s.reserve id
  return (id, s.put { r with id })

/-- Removes a record; answers whether there was one. -/
def remove (s : Store) (id : RecordId) : Bool × Store :=
  (s.contains id, { s.unindexId id with records := s.records.erase id })

/-! ### Looking records up -/

/-- The records that hold a value of a property. -/
def withTag (s : Store) (property : String) (value : Value) : IdSet :=
  s.tags.lookup ⟨property, value⟩

/-- The records that hold all values of a list; for no values, none. -/
def withTags (s : Store) (property : String) (values : List Value) : IdSet :=
  Combination.all.of (values.map (s.withTag property))

/-- The entries of a property in the index of tags, by value. -/
def tagEntries (s : Store) (property : String) : List (Value × IdList) :=
  (s.tags.toList.filter fun (tag, _) => tag.property = property).map
    fun (tag, ids) => (tag.value, ids)

/-- The records that hold a value of a property. -/
def withProperty (s : Store) (property : String) : IdSet :=
  ExtTreeSet.ofList ((s.tagEntries property).flatMap fun (_, ids) => ids.ids) compare

/-- The values of a property in their order, with the numbers of records that hold
them. -/
def valueCounts (s : Store) (property : String) : List (Value × Nat) :=
  (s.tagEntries property).map fun (value, ids) => (value, ids.ids.length)

/-- The greatest number of values that a record holds for a property. -/
def maxValueCount (s : Store) (property : String) : Nat :=
  (s.recordsOf (s.withProperty property)).foldl (fun most r => max most (r.values property).length) 0

/-- The records with a search term. -/
def withTerm (s : Store) (term : String) : IdSet :=
  s.terms.lookup term

/-- The records with all, or any, of some search terms; for no terms, none. -/
def withTerms (s : Store) (terms : List String) (mode : Combination) : IdSet :=
  mode.of (terms.map s.withTerm)

/-! ### Changing properties -/

/-- Puts some records back as an edit leaves them.

They are written with `put`, although a record that is stored goes through `insert`, which may
refuse it.  Here it never does: the records come from the store, so they have paths and
identifiers that were given away.  `Sound.stores_putEdited` says that `insert` takes them one
after the other and leaves the same store, `Sound.stores_of_setValues` and
`Sound.stores_of_applyChange` that this is so in both uses below. -/
def putEdited (s : Store) (edit : Record → Record) (records : List Record) : Store :=
  records.foldl (fun s r => s.put (edit r)) s

/-- Sets the values of a property in some records, which have to be there.  Answers
with the number of records, each counted once. -/
def setValues (s : Store) (ids : List RecordId) (property : String) (values : List Value) :
    Except StoreError (Nat × Store) := do
  let records ← (ExtTreeSet.ofList ids compare).toList.mapM s.require
  return (records.length, s.putEdited (·.setValues property values) records)

/-- A record that has the values of a property under another name. -/
def renameIn (old new : String) (r : Record) : Record :=
  (r.setValues old []).setValues new (r.values old)

/-- Makes the records follow a change of the catalog.  Answers with the number of
records that held the property, where they had to change.  A property cannot be confined
to a single value while a record holds several. -/
def applyChange (s : Store) : CatalogChange → Except StoreError (Nat × Store)
  | .defined _ => .ok (0, s)
  | .multiplicity name multiple =>
    let most := s.maxValueCount name
    if multiple || most ≤ 1 then .ok (0, s)
    else .error (.schema (.invalidValue name s!"{most} values" .severalHeld))
  | .renamed old new =>
    let records := s.recordsOf (s.withProperty old)
    .ok (records.length, s.putEdited (renameIn old new) records)
  | .removed name =>
    let records := s.recordsOf (s.withProperty name)
    .ok (records.length, s.putEdited (·.setValues name []) records)

/-! ### Property definitions -/

/-- Keeps a definition under its name. -/
def saveDefinition (s : Store) (d : Definition) : Store :=
  { s with definitions := s.definitions.insert d.name d }

/-- Drops the definition under a name; answers whether there was one. -/
def deleteDefinition (s : Store) (name : String) : Bool × Store :=
  (s.definitions.contains name, { s with definitions := s.definitions.erase name })

/-- The kept definitions in the order of their names. -/
def loadDefinitions (s : Store) : List Definition :=
  s.definitions.toList.map Prod.snd

end Store

end MediaLibrary
