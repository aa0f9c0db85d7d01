/-
The commands that show a view.

The layers named on the command line are set one after another: sources, grouping, path of
values, group, search and order.  A layer that is not named stays as it is, except that
the first group is chosen unless another is named.
-/
import MediaLibrary.Command.Basic
import MediaLibrary.Command.Session
import MediaLibrary.Json.ViewResult
import MediaLibrary.Report.Lines

namespace MediaLibrary

namespace ViewArguments

/-- The choice among the records of the view. -/
def selector (a : ViewArguments) : Option Selector :=
  if !a.included.isEmpty then some (.include (Std.ExtTreeSet.ofList a.included compare))
  else if !a.excluded.isEmpty then some (.exclude (Std.ExtTreeSet.ofList a.excluded compare))
  else none

/-- The field or property to group by, and whether it is a property. -/
def groupingField (a : ViewArguments) : Except QueryError (Option (String × Bool)) :=
  match a.groupBy, a.groupTag with
  | some text, _ =>
    match Field.ofText? text with
    | some field => .ok (some (field.name, false))
    | none => .error (.unknownField text)
  | none, some property => .ok (some (property, true))
  | none, none => .ok none

/-- Sets the sources that are named. -/
def applySources (a : ViewArguments) : CommandM Unit := do
  unless a.sources.isEmpty do
    let sources ← CommandM.check (.library ∘ .query) (a.sources.mapM SourcePath.ofText)
    CommandM.onLibrary (LibraryM.setSources sources)

/-- Sets the grouping that is named. -/
def applyGrouping (a : ViewArguments) : CommandM Unit := do
  match ← CommandM.check (.library ∘ .query) a.groupingField with
  | none => return
  | some (field, isProperty) =>
    let order ← CommandM.check .unknownName (GroupOrder.ofText a.groupSort)
    CommandM.onLibrary (LibraryM.setGrouping (some
      { field, isProperty, order, reverse := a.reverse, allowSingletons := a.singletons }))

/-- Sets the path of values that is named. -/
def applyPath (a : ViewArguments) : CommandM Unit := do
  unless a.classifier.isEmpty do
    let l := (← get).library
    let property := l.layers.grouping.elim "" (·.field)
    let path ← CommandM.check (.library ∘ .schema) (l.catalog.parse property a.classifier)
    CommandM.onLibrary (LibraryM.setClassifier path)

/-- Sets the search that is named. -/
def applySearch (a : ViewArguments) : CommandM Unit := do
  if let some text := a.search then
    let condition ← CommandM.check .unknownName (SearchCondition.ofText a.searchMode)
    CommandM.onLibrary (LibraryM.setSearch (some ⟨text, condition⟩))

/-- Sets the order that is named. -/
def applySort (a : ViewArguments) : CommandM Unit := do
  unless a.sort.isEmpty do
    let sort ← CommandM.check (.library ∘ .view) (a.sort.mapM SortKey.ofText)
    CommandM.onLibrary (LibraryM.setSort sort)

/-- Sets the layers that are named. -/
def apply (a : ViewArguments) : CommandM Unit := do
  a.applySources
  a.applyGrouping
  a.applyPath
  CommandM.onLibrary (LibraryM.setGroup a.group)
  a.applySearch
  a.applySort

end ViewArguments

namespace CommandM

/-- Shows one page of the view. -/
def view (context : Context) (a : ViewArguments) (page : UInt64) (pageSize : Option UInt64) :
    CommandM Unit := do
  a.apply
  let request := context.config.pageRequest page
  let result ← onLibrary (LibraryM.view
    { request with pageSize := pageSize.getD request.pageSize, selector := a.selector })
  if context.json then printJson result.toJson
  else
    if let some groups := result.groups then
      unless context.quiet do
        printLines (groups.mapIdx fun index group =>
          context.paint.groupLine index group (index = result.layers.group.toNat))
        printLine ""
    printLines (result.page.records.map (context.paint.recordLine context.quiet))
    inform context result.page.summary

/-- Prints the values of one field in the selected records of the view. -/
def column (context : Context) (field : String) (a : ViewArguments) : CommandM Unit := do
  match Field.ofText? field with
  | none => throw (.library (.query (.unknownField field)))
  | some f =>
    a.apply
    let values ← onLibrary (LibraryM.column a.selector f)
    if context.json then printJson (.arr (values.map FieldValue.toJson))
    else printLines (values.map FieldValue.display)

end CommandM

end MediaLibrary
