/-
The sources layer of a view.

A source path is a list of states that a record must be in, all at once; the sources
of a view are alternatives.  A path is written as the names of its segments with
hyphens between them.
-/
import MediaLibrary.Query.Filter
import MediaLibrary.Store.Error

namespace MediaLibrary

/-- Why a query cannot be built. -/
inductive QueryError where
  | unknownSource (text : String)
  | unknownField (name : String)
  | schema (error : SchemaError)
  | store (error : StoreError)
  deriving DecidableEq

/-- Why no records can be selected, in words. -/
def QueryError.message : QueryError → String
  | unknownSource text => s!"Unknown source segment '{text}'"
  | unknownField name => s!"Unknown field '{name}'"
  | schema error => s!"Schema error: {error.message}"
  | store error => s!"Database error: {error.message}"

/-- One state in a source path. -/
inductive SourceSegment where
  | readable
  | unreadable
  | found
  | notFound
  | withThumbnails
  | withoutThumbnails
  | discarded
  deriving DecidableEq

namespace SourceSegment

/-- All segments. -/
def all : List SourceSegment :=
  [readable, unreadable, found, notFound, withThumbnails, withoutThumbnails, discarded]

/-- The name of a segment. -/
def name : SourceSegment → String
  | readable => "readable"
  | unreadable => "unreadable"
  | found => "found"
  | notFound => "not_found"
  | withThumbnails => "with_thumbnails"
  | withoutThumbnails => "without_thumbnails"
  | discarded => "discarded"

theorem mem_all (s : SourceSegment) : s ∈ all := by
  cases s <;> decide

/-- The segment with a given name. -/
def ofName? (name : String) : Option SourceSegment :=
  all.find? (·.name = name)

/-- The segment with a given name, which has to exist. -/
def ofText (name : String) : Except QueryError SourceSegment :=
  match ofName? name with
  | some segment => .ok segment
  | none => .error (.unknownSource name)

/-- The state that a segment asks for. -/
def condition : SourceSegment → Flag × Bool
  | readable => (.readable, true)
  | unreadable => (.readable, false)
  | found => (.found, true)
  | notFound => (.found, false)
  | withThumbnails => (.hasThumbnail, true)
  | withoutThumbnails => (.hasThumbnail, false)
  | discarded => (.discarded, true)

/-- The filter on the state that a segment asks for. -/
def filter (s : SourceSegment) : Filter :=
  .flag s.condition.1 s.condition.2

end SourceSegment

/-- A list of states that a record must be in. -/
structure SourcePath where
  segments : List SourceSegment
  deriving DecidableEq

namespace SourcePath

/-- The text of a path. -/
def text (p : SourcePath) : String :=
  "-".intercalate (p.segments.map SourceSegment.name)

instance : ToString SourcePath := ⟨text⟩

/-- The pieces of a text between hyphens, without the blanks around them and without
those that are then empty. -/
def pieces (s : String) : List String :=
  ((Text.split '-' s).map Text.trim).filter (!·.isEmpty)

/-- The path that a text writes.  It needs one segment at least. -/
def ofText (s : String) : Except QueryError SourcePath := do
  let segments ← (pieces s).mapM SourceSegment.ofText
  if segments.isEmpty then throw (.unknownSource s)
  return ⟨segments⟩

/-- The records in all states of the path. -/
def filter (p : SourcePath) : Filter :=
  .all (p.segments.map SourceSegment.filter)

end SourcePath

/-- The records of one of the paths; without paths there are none. -/
def sourcesFilter (sources : List SourcePath) : Filter :=
  .any (sources.map SourcePath.filter)

end MediaLibrary
