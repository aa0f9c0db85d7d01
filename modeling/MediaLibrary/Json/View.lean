/-
The layers of a view, requests and results in JSON.
-/
import MediaLibrary.Json.Record
import MediaLibrary.View.Layers
import MediaLibrary.View.Page

namespace MediaLibrary

open Std

namespace SourceSegment

/-- A segment by its name. -/
def toJson (s : SourceSegment) : Json := .str s.name

/-- The segment with a written name. -/
def ofJson? : Json → Option SourceSegment := Json.readName ofName?

end SourceSegment

namespace SourcePath

/-- A source by its segments. -/
def toJson (p : SourcePath) : Json := .arr (p.segments.map SourceSegment.toJson)

/-- The source of some written segments. -/
def ofJson? (j : Json) : Option SourcePath :=
  (Json.readList SourceSegment.ofJson? j).map SourcePath.mk

/-- Some sources. -/
def listToJson (sources : List SourcePath) : Json := .arr (sources.map toJson)

/-- Some written sources. -/
def listOfJson? : Json → Option (List SourcePath) := Json.readList ofJson?

end SourcePath

namespace SearchCondition

/-- A condition by its name. -/
def toJson (c : SearchCondition) : Json := .str c.name

/-- The condition with a written name. -/
def ofJson? : Json → Option SearchCondition := Json.readName ofName?

end SearchCondition

namespace Search

/-- A search with its text and its condition. -/
def toJson (s : Search) : Json := .obj [("text", .str s.text), ("cond", s.condition.toJson)]

/-- A search, of which nothing may be left out. -/
def ofJson? (j : Json) : Option Search := do
  let f ← j.fields? ["text", "cond"]
  return {
    text := ← f.require "text" Json.toString?
    condition := ← f.require "cond" SearchCondition.ofJson? }

end Search

namespace GroupOrder

/-- An order of groups by its name. -/
def toJson (o : GroupOrder) : Json := .str o.name

/-- The order of groups with a written name. -/
def ofJson? : Json → Option GroupOrder := Json.readName ofName?

end GroupOrder

namespace Grouping

/-- A grouping with all of its fields. -/
def toJson (g : Grouping) : Json :=
  .obj [("field", .str g.field), ("isProperty", .bool g.isProperty), ("sorting", g.order.toJson),
    ("reverse", .bool g.reverse), ("allowSingletons", .bool g.allowSingletons)]

/-- A grouping, of which only the arrangement of its groups may be left out. -/
def ofJson? (j : Json) : Option Grouping := do
  let f ← j.fields? ["field", "isProperty", "sorting", "reverse", "allowSingletons"]
  return {
    field := ← f.require "field" Json.toString?
    isProperty := ← f.require "isProperty" Json.toBool?
    order := ← f.withDefault "sorting" GroupOrder.ofJson? .byValue
    reverse := ← f.withDefault "reverse" Json.toBool? false
    allowSingletons := ← f.withDefault "allowSingletons" Json.toBool? false }

end Grouping

namespace SortKey

/-- A sort key by its text. -/
def toJson (k : SortKey) : Json := .str k.text

/-- The sort key of a written text. -/
def ofJson? : Json → Option SortKey
  | .str s => (ofText s).toOption
  | _ => none

/-- The keys of an order. -/
def listToJson (keys : List SortKey) : Json := .arr (keys.map toJson)

end SortKey

namespace Layer

/-- A layer by its name. -/
def toJson (l : Layer) : Json := .str l.name

/-- The layer with a written name. -/
def ofJson? : Json → Option Layer := Json.readName ofName?

end Layer

namespace Layers

/-- All layers of a view. -/
def toJson (l : Layers) : Json :=
  .obj [("sources", SourcePath.listToJson l.sources),
    ("grouping", .ofOption Grouping.toJson l.grouping), ("classifier", Value.listToJson l.path),
    ("groupId", .ofUInt64 l.group), ("search", .ofOption Search.toJson l.search),
    ("sort", SortKey.listToJson l.sort)]

/-- The layers of a view; those left out are the default. -/
def ofJson? (j : Json) : Option Layers := do
  let f ← j.fields? ["sources", "grouping", "classifier", "groupId", "search", "sort"]
  return {
    sources := ← f.withDefault "sources" SourcePath.listOfJson? defaultSources
    grouping := ← f.withDefault "grouping" (Json.readOption Grouping.ofJson?) none
    path := ← f.withDefault "classifier" (Json.readList Value.ofJson?) []
    group := ← f.withDefault "groupId" Json.toUInt64? 0
    search := ← f.withDefault "search" (Json.readOption Search.ofJson?) none
    sort := ← f.withDefault "sort" (Json.readList SortKey.ofJson?) defaultSort }

end Layers

namespace IdSet

/-- Some identifiers in their order. -/
def toJson (ids : IdSet) : Json := .arr (ids.toList.map Json.ofUInt64)

/-- Some identifiers in any order. -/
def ofJson? (j : Json) : Option IdSet :=
  (Json.readList Json.toUInt64? j).map fun ids => ExtTreeSet.ofList ids compare

end IdSet

namespace Selector

/-- A selector, under the name of what it does. -/
def toJson : Selector → Json
  | .include ids => .obj [("include", IdSet.toJson ids)]
  | .exclude ids => .obj [("exclude", IdSet.toJson ids)]

/-- A selector, which is an object with one member. -/
def ofJson? : Json → Option Selector
  | .obj [("include", ids)] => (IdSet.ofJson? ids).map .include
  | .obj [("exclude", ids)] => (IdSet.ofJson? ids).map .exclude
  | _ => none

end Selector

namespace PageRequest

/-- A request with all of its fields. -/
def toJson (r : PageRequest) : Json :=
  .obj [("pageSize", .ofUInt64 r.pageSize), ("pageNumber", .ofUInt64 r.pageNumber),
    ("selector", .ofOption Selector.toJson r.selector)]

/-- A request; fields left out are as in a new one. -/
def ofJson? (j : Json) : Option PageRequest := do
  let f ← j.fields? ["pageSize", "pageNumber", "selector"]
  let default : PageRequest := {}
  return {
    pageSize := ← f.withDefault "pageSize" Json.toUInt64? default.pageSize
    pageNumber := ← f.withDefault "pageNumber" Json.toUInt64? default.pageNumber
    selector := ← f.withDefault "selector" (Json.readOption Selector.ofJson?) none }

end PageRequest

namespace GroupValue

/-- The value of a group, be it of a field or of a property. -/
def toJson : GroupValue → Json
  | field value => value.toJson
  | property value => value.toJson

end GroupValue

namespace GroupSummary

/-- What is told about a group. -/
def toJson (g : GroupSummary) : Json :=
  .obj [("value", .ofOption GroupValue.toJson g.value),
    ("count", .ofNat g.count), ("length", .ofBinary64 g.length),
    ("classified", .bool g.classified)]

end GroupSummary

end MediaLibrary
