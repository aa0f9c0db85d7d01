/-
The catalog of property definitions.

A catalog keeps each definition under its own name.  It never touches records: an
operation that changes a definition answers with a `CatalogChange`, and whoever
keeps the records applies it to them.

The descriptions of all properties are asked for far more often than definitions
change, so a catalog keeps the list once it has been made.  Each operation that
changes a definition drops it.
-/
import MediaLibrary.Property.Definition

namespace MediaLibrary

open Std

/-- What a change of the catalog means for the records. -/
inductive CatalogChange where
  | defined (name : String)
  | renamed (old new : String)
  | removed (name : String)
  | multiplicity (name : String) (multiple : Bool)
  deriving DecidableEq

/-- The definitions by name, and the list of their descriptions if it has been made
since the last change. -/
structure Catalog where
  definitions : ExtTreeMap String Definition
  described : Option (List Description)

namespace Catalog

/-- The catalog without definitions. -/
def empty : Catalog := ⟨∅, none⟩

/-- The catalog of some definitions; of two with one name the later counts. -/
def ofDefinitions (definitions : List Definition) : Catalog :=
  ⟨definitions.foldl (fun all d => all.insert d.name d) ∅, none⟩

/-- The definitions in the order of their names. -/
def toList (c : Catalog) : List Definition :=
  c.definitions.toList.map Prod.snd

/-- The number of properties. -/
def size (c : Catalog) : Nat := c.definitions.size

/-- Whether no property is defined. -/
def isEmpty (c : Catalog) : Bool := c.definitions.isEmpty

/-- The definition of a property. -/
def get? (c : Catalog) (name : String) : Option Definition := c.definitions[name]?

/-- The definition of a property that has to be there. -/
def require (c : Catalog) (name : String) : Except SchemaError Definition :=
  match c.get? name with
  | some d => .ok d
  | none => .error (.unknown name)

/-- The catalog with other definitions. -/
def changed (definitions : ExtTreeMap String Definition) : Catalog := ⟨definitions, none⟩

/-- Adds a definition under a name that is not taken. -/
def define (c : Catalog) (name : String) (kind : Kind) (multiple : Bool)
    (enumeration : Option (List Value)) (default : Option Value) :
    Except SchemaError (Catalog × CatalogChange) := do
  if c.definitions.contains (Text.trim name) then throw (.duplicate (Text.trim name))
  let d ← Definition.new name kind multiple enumeration default
  return (changed (c.definitions.insert d.name d), .defined d.name)

/-- Gives a property another name, which may not be taken, not even by itself. -/
def rename (c : Catalog) (old new : String) : Except SchemaError (Catalog × CatalogChange) := do
  let new := Text.trim new
  let d ← c.require old
  if new.isEmpty then throw (.invalidDefinition old .blankNewName)
  if c.definitions.contains new then throw (.duplicate new)
  return (changed ((c.definitions.erase old).insert new { d with name := new }),
    .renamed old new)

/-- Removes a definition. -/
def remove (c : Catalog) (name : String) : Except SchemaError (Catalog × CatalogChange) := do
  let _ ← c.require name
  return (changed (c.definitions.erase name), .removed name)

/-- Lets a property have several values, or one only. -/
def setMultiplicity (c : Catalog) (name : String) (multiple : Bool) :
    Except SchemaError (Catalog × CatalogChange) := do
  let d ← c.require name
  return (changed (c.definitions.insert name { d with multiple }), .multiplicity name multiple)

/-- The values as the named property holds them. -/
def validate (c : Catalog) (name : String) (raw : List Value) : Except SchemaError (List Value) := do
  (← c.require name).validate raw

/-- The values that texts write, as the named property holds them. -/
def parse (c : Catalog) (name : String) (texts : List String) :
    Except SchemaError (List Value) := do
  (← c.require name).parse texts

/-- The description of one property. -/
def describe (c : Catalog) (name : String) : Except SchemaError Description :=
  (c.require name).map Definition.describe

/-- The descriptions of all properties by name, and the catalog that remembers
them. -/
def describeAll (c : Catalog) : List Description × Catalog :=
  match c.described with
  | some known => (known, c)
  | none =>
    let made := c.toList.map Definition.describe
    (made, { c with described := some made })

end Catalog

end MediaLibrary
