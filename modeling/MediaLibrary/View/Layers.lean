/-
The layers of a view.

Six layers together say what a view shows: which sources the records come from,
what they are grouped by, which path of values has been followed, which group is
looked at, what is searched for, and how the records are sorted.
-/
import MediaLibrary.Grouping.Groups
import MediaLibrary.View.Sort

namespace MediaLibrary

/-- The layers of a view. -/
structure Layers where
  sources : List SourcePath
  grouping : Option Grouping
  path : List Value
  group : UInt64
  search : Option Search
  sort : List SortKey
  deriving DecidableEq

namespace Layers

/-- Readable records from any place. -/
def defaultSources : List SourcePath := [⟨[.readable]⟩]

/-- The newest records first. -/
def defaultSort : List SortKey := [⟨.date, true⟩]

/-- The layers of a view about which nothing has been said. -/
def default : Layers :=
  ⟨defaultSources, none, [], 0, none, defaultSort⟩

instance : Inhabited Layers := ⟨default⟩

end Layers

/-- The name of a layer. -/
inductive Layer where
  | sources
  | grouping
  | classifier
  | group
  | search
  | sort
  deriving DecidableEq

namespace Layer

/-- The name by which a layer is written. -/
def name : Layer → String
  | sources => "sources"
  | grouping => "grouping"
  | classifier => "classifier"
  | group => "group"
  | search => "search"
  | sort => "sort"

instance : ToString Layer := ⟨name⟩

/-- The layer with a given name. -/
def ofName? : String → Option Layer
  | "sources" => some sources
  | "grouping" => some grouping
  | "classifier" => some classifier
  | "group" => some group
  | "search" => some search
  | "sort" => some sort
  | _ => none

/-- The layer that a text names. -/
def ofText (text : String) : Except UnknownName Layer :=
  UnknownName.orElse "layer" text (ofName? text)

end Layer

end MediaLibrary
