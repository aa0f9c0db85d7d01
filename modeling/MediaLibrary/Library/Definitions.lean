/-
Operations on the property definitions of a library.

A change is made in the catalog, then the records follow it, then the store keeps the
changed definition.  The records can refuse to follow, and then nothing has changed.
-/
import MediaLibrary.Library.Basic

namespace MediaLibrary

/-- The store that keeps the definitions as they are after a change of the catalog. -/
def Store.keepDefinitions (s : Store) (catalog : Catalog) (change : CatalogChange) : Store :=
  let save (s : Store) (name : String) : Store := (catalog.get? name).elim s s.saveDefinition
  match change with
  | .defined name => save s name
  | .multiplicity name _ => save s name
  | .renamed old new => save (s.deleteDefinition old).2 new
  | .removed name => (s.deleteDefinition name).2

namespace LibraryM

/-- Takes over a changed catalog. -/
def commit (catalog : Catalog) (change : CatalogChange) : LibraryM Unit := do
  let (_, store) ← check .store ((← get).store.applyChange change)
  modify fun l => { l with store := store.keepDefinitions catalog change, catalog }
  forceUpdate

/-- Makes a change in the catalog and takes it over; answers with the change. -/
def changeCatalog (change : Catalog → Except SchemaError (Catalog × CatalogChange)) :
    LibraryM CatalogChange := do
  let (catalog, change) ← check .schema (change (← get).catalog)
  commit catalog change
  return change

/-- Defines a property. -/
def defineProperty (name : String) (kind : Kind) (multiple : Bool)
    (enumeration : Option (List Value)) (default : Option Value) : LibraryM Unit := do
  let _ ← changeCatalog (·.define name kind multiple enumeration default)

/-- Renames a property, in the records and in the grouping too. -/
def renameProperty (old new : String) : LibraryM Unit := do
  match ← changeCatalog (·.rename old new) with
  | .renamed old new => changeParameters (·.renameGroupingProperty old new)
  | _ => return

/-- Removes a property with its values.  A view that was grouped by it is not grouped
any more. -/
def removeProperty (name : String) : LibraryM Unit := do
  let _ ← changeCatalog (·.remove name)
  changeParameters fun p => if p.groupsBy name true then p.reset .grouping else p

/-- Lets a property have several values, or one only.  A view that was grouped by it
loses its path when the property becomes single-valued. -/
def setMultiplicity (name : String) (multiple : Bool) : LibraryM Unit := do
  let _ ← changeCatalog (·.setMultiplicity name multiple)
  unless multiple do
    changeParameters fun p =>
      let (grouped, p) := p.notifyModified name true
      if grouped then p.classifierReset else p

/-- The descriptions of all properties. -/
def describeProperties : LibraryM (List Description) :=
  modifyGet fun l =>
    let (all, catalog) := l.catalog.describeAll
    (all, { l with catalog })

end LibraryM

end MediaLibrary
