/-
Changing the layers of a view.

The layers depend on each other.  Other sources, another search or another grouping
put the view back to the first group, and another grouping forgets the path of
values followed so far.  What has been computed from the layers depends on the first
four of them and on the search: `Parameters` carries the caches of such results and
drops them before an operation that changes one of these layers returns.  Choosing a
group or an order leaves the caches alone, and so does setting a layer to what it
already is.
-/
import MediaLibrary.View.Layers

namespace MediaLibrary

/-- Results that can be dropped when what they were computed from changes. -/
class Invalidate (κ : Type) where
  invalidate : κ → κ

export Invalidate (invalidate)

instance {κ : Type} [Invalidate κ] : Invalidate (List κ) := ⟨List.map invalidate⟩

/-- Why a path of values cannot be followed. -/
inductive ParametersError where
  | noGrouping
  | notMultiValued (field : String)
  | duplicateValue (value : Value)
  | schema (error : SchemaError)
  deriving DecidableEq

/-- Why a path is not followed, in words. -/
def ParametersError.message : ParametersError → String
  | noGrouping => "No grouping is active"
  | notMultiValued field =>
    s!"Classifier path requires grouping by a multi-valued property, not '{field}'"
  | duplicateValue value => s!"Value '{value}' is already in the classifier path"
  | schema error => s!"Schema error: {error.message}"

/-- The layers of a view, and the caches of what depends on them. -/
structure Parameters (κ : Type) where
  layers : Layers
  caches : κ

namespace Parameters

variable {κ : Type} [Invalidate κ]

/-- Drops the caches. -/
def forceUpdate (p : Parameters κ) : Parameters κ :=
  { p with caches := invalidate p.caches }

/-- Other layers that put the view back to its first group, with the caches
dropped. -/
def restart (p : Parameters κ) (layers : Layers) : Parameters κ :=
  { p with layers := { layers with group := 0 } }.forceUpdate

/-- Sets the sources. -/
def setSources (p : Parameters κ) (sources : List SourcePath) : Parameters κ :=
  if p.layers.sources = sources then p else p.restart { p.layers with sources }

/-- Sets the search; a blank text searches for nothing. -/
def setSearch (p : Parameters κ) (search : Option Search) : Parameters κ :=
  let search := search.filter (!·.isBlank)
  if p.layers.search = search then p else p.restart { p.layers with search }

/-- Sets the grouping; another grouping starts without a path. -/
def setGrouping (p : Parameters κ) (grouping : Option Grouping) : Parameters κ :=
  if p.layers.grouping = grouping then p else p.restart { p.layers with grouping, path := [] }

/-- Sets the path without looking at its values. -/
def withPath (p : Parameters κ) (path : List Value) : Parameters κ :=
  if p.layers.path = path then p else p.restart { p.layers with path }

/-- The property that the view is grouped by, if it may have several values. -/
def classifiedProperty (p : Parameters κ) (catalog : Catalog) : Except ParametersError String :=
  match p.layers.grouping with
  | none => .error .noGrouping
  | some g =>
    if g.isProperty && (catalog.get? g.field).any (·.multiple) then .ok g.field
    else .error (.notMultiValued g.field)

/-- A path with one more value, as the property holds it. -/
def extend (catalog : Catalog) (property : String) (path : List Value) (value : Value) :
    Except ParametersError (List Value) := do
  let values ← (catalog.validate property [value]).mapError ParametersError.schema
  match values with
  | [] => return path
  | value :: _ =>
    if value ∈ path then throw (.duplicateValue value)
    return path ++ [value]

/-- Follows one more value of the property that the view is grouped by. -/
def classifierPush (p : Parameters κ) (value : Value) (catalog : Catalog) :
    Except ParametersError (Parameters κ) := do
  let property ← p.classifiedProperty catalog
  return p.withPath (← extend catalog property p.layers.path value)

/-- Forgets the path. -/
def classifierReset (p : Parameters κ) : Parameters κ :=
  p.withPath []

/-- A path with one more value that is not in it yet. -/
def addNew (path : List Value) (value : Value) : Except ParametersError (List Value) :=
  if value ∈ path then .error (.duplicateValue value) else .ok (path ++ [value])

/-- A path with all that the property holds for one more value. -/
def extendAll (catalog : Catalog) (property : String) (path : List Value) (value : Value) :
    Except ParametersError (List Value) := do
  let values ← (catalog.validate property [value]).mapError ParametersError.schema
  values.foldlM addNew path

/-- Sets the whole path, all of whose values are checked before it changes. -/
def setClassifier (p : Parameters κ) (path : List Value) (catalog : Catalog) :
    Except ParametersError (Parameters κ) :=
  if path.isEmpty then .ok p.classifierReset
  else do
    let property ← p.classifiedProperty catalog
    return p.withPath (← path.foldlM (extendAll catalog property) [])

/-- Goes one value back; answers with the value. -/
def classifierPop (p : Parameters κ) : Option Value × Parameters κ :=
  (p.layers.path.getLast?, p.withPath p.layers.path.dropLast)

/-- Chooses a group, be it there or not. -/
def setGroup (p : Parameters κ) (group : UInt64) : Parameters κ :=
  { p with layers := { p.layers with group } }

/-- Moves the choice to the last group if there are not as many, and to zero if there
are none. -/
def clampGroup (p : Parameters κ) (groupCount : Nat) : Parameters κ :=
  p.setGroup (min p.layers.group (UInt64.ofNat (groupCount - 1)))

/-- Sets the order of the records. -/
def setSort (p : Parameters κ) (sort : List SortKey) : Parameters κ :=
  { p with layers := { p.layers with sort } }

/-- Puts a layer back to what it is by default. -/
def reset (p : Parameters κ) : Layer → Parameters κ
  | .sources => p.setSources Layers.defaultSources
  | .grouping => p.setGrouping none
  | .classifier => p.classifierReset
  | .group => p.setGroup 0
  | .search => p.setSearch none
  | .sort => p.setSort Layers.defaultSort

/-- Whether the view is grouped by a given field or property. -/
def groupsBy (p : Parameters κ) (name : String) (isProperty : Bool) : Bool :=
  p.layers.grouping.any fun g => g.field = name && g.isProperty == isProperty

/-- Takes note that a field or property has changed in some records; answers whether
the view is grouped by it. -/
def notifyModified (p : Parameters κ) (name : String) (isProperty : Bool) :
    Bool × Parameters κ :=
  if p.groupsBy name isProperty then (true, p.forceUpdate) else (false, p)

/-- Follows the property that the view is grouped by to its new name. -/
def renameGroupingProperty (p : Parameters κ) (old new : String) : Parameters κ :=
  match p.layers.grouping with
  | some g =>
    if g.isProperty && g.field = old then
      { p with layers := { p.layers with grouping := some { g with field := new } } }.forceUpdate
    else p
  | none => p

end Parameters

end MediaLibrary
