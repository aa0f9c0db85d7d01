/-
Views of a library.

A view selects the records that its sources and its search let through, narrows them to
one group if it is grouped, sorts them and cuts out a page.  The groups are remembered;
the records are selected anew every time.
-/
import MediaLibrary.Library.Basic

namespace MediaLibrary

/-- What a view shows, with the layers that it was made from. -/
structure ViewResult where
  page : Page
  layers : Layers
  groups : Option (List GroupSummary)

namespace Library

/-- The filter of the sources and the search layer. -/
def filter (l : Library) : Except QueryError Filter :=
  l.store.termIndex.viewFilter l.layers.sources l.layers.search

/-- The groups of the records that a filter accepts, without regard to what is
remembered. -/
def computeGroups (l : Library) (grouping : Grouping) (filter : Filter) :
    Except QueryError (List Group) :=
  groupsOf l.catalog grouping l.layers.path (l.store.select filter)

/-- The layers by which groups are remembered. -/
def groupingKey (l : Library) (grouping : Grouping) : GroupingKey :=
  ⟨l.layers.sources, l.layers.search, grouping, l.layers.path⟩

end Library

namespace LibraryM

/-! ### Setting layers -/

/-- Sets the sources. -/
def setSources (sources : List SourcePath) : LibraryM Unit :=
  changeParameters (·.setSources sources)

/-- Sets the search; a blank text searches for nothing. -/
def setSearch (search : Option Search) : LibraryM Unit :=
  changeParameters (·.setSearch search)

/-- Sets the grouping; the field or property it names has to exist. -/
def setGrouping (grouping : Option Grouping) : LibraryM Unit := do
  if let some g := grouping then
    if g.isProperty then
      let _ ← check .schema ((← get).catalog.require g.field)
    else if (Field.ofText? g.field).isNone then
      throw (.query (.unknownField g.field))
  changeParameters (·.setGrouping grouping)

/-- Follows one more value of the property that the view is grouped by. -/
def classifierPush (value : Value) : LibraryM Unit := do
  let l ← get
  let parameters ← check .parameters (l.parameters.classifierPush value l.catalog)
  set { l with parameters }

/-- Sets the path of values. -/
def setClassifier (path : List Value) : LibraryM Unit := do
  let l ← get
  let parameters ← check .parameters (l.parameters.setClassifier path l.catalog)
  set { l with parameters }

/-- Goes one value back; answers with the value. -/
def classifierPop : LibraryM (Option Value) :=
  modifyGet fun l =>
    let (value, parameters) := l.parameters.classifierPop
    (value, { l with parameters })

/-- Forgets the path. -/
def classifierReset : LibraryM Unit :=
  changeParameters (·.classifierReset)

/-- Chooses a group, be it there or not. -/
def setGroup (group : UInt64) : LibraryM Unit :=
  changeParameters (·.setGroup group)

/-- Sets the order of the records. -/
def setSort (sort : List SortKey) : LibraryM Unit :=
  changeParameters (·.setSort sort)

/-- Puts a layer back to what it is by default. -/
def reset (layer : Layer) : LibraryM Unit :=
  changeParameters (·.reset layer)

/-! ### Showing a view -/

/-- The groups of the records that a filter accepts, remembered or computed. -/
def groupsFor (grouping : Grouping) (filter : Filter) : LibraryM (List Group) := do
  let l ← get
  let (groups, memo) := l.parameters.caches.groups.groupsWith (l.groupingKey grouping) fun _ =>
    l.computeGroups grouping filter
  set { l with parameters.caches.groups := memo }
  check .query groups

/-- Moves the choice of a group to one of the given groups and answers with it. -/
def chosenGroup (groups : List Group) : LibraryM (Option Group) := do
  changeParameters (·.clampGroup groups.length)
  return groups[(← get).layers.group.toNat]?

/-- The filter of the chosen group together with those of the other layers. -/
def narrowToGroup (grouping : Grouping) (filter : Filter) :
    Option Group → LibraryM Filter
  | none => return .never
  | some group => do
    let l ← get
    let member ← check .query (groupFilter l.catalog grouping l.layers.path group)
    return .all [filter, member]

/-- The sorted records of the view, and the groups if it is grouped. -/
def viewRecords : LibraryM (List Record × Option (List Group)) := do
  let filter ← check .query (← get).filter
  let (filter, groups) ←
    match (← get).layers.grouping with
    | none => pure (filter, none)
    | some grouping => do
      let groups ← groupsFor grouping filter
      let narrowed ← narrowToGroup grouping filter (← chosenGroup groups)
      pure (narrowed, some groups)
  let l ← get
  return (sortRecords l.layers.sort (l.store.select filter), groups)

/-- One page of the view. -/
def view (request : PageRequest) : LibraryM ViewResult := do
  let (records, groups) ← viewRecords
  return ⟨paginate records request, (← get).layers, groups.map (·.map Group.summary)⟩

/-- The values of a field in the selected records of the view. -/
def column (selector : Option Selector) (field : Field) : LibraryM (List FieldValue) := do
  let (records, _) ← viewRecords
  check .view (MediaLibrary.column records selector field)

/-- Follows the value of the chosen group; answers whether it has one. -/
def classifierSelectGroup : LibraryM Bool := do
  match (← get).layers.grouping with
  | none => throw (.parameters .noGrouping)
  | some grouping =>
    let filter ← check .query (← get).filter
    let groups ← groupsFor grouping filter
    match (← chosenGroup groups).bind (·.value) with
    | some (.property value) =>
      classifierPush value
      return true
    | _ => return false

end LibraryM

end MediaLibrary
