/-
Views in JSON.
-/
import MediaLibrary.Json.View
import MediaLibrary.Library.Views

namespace MediaLibrary.ViewResult

/-- A view with its page and the layers it was made from, except the grouping. -/
def toJson (v : ViewResult) : Json :=
  .obj [("records", .arr (v.page.records.map Record.toJson)),
    ("pageNumber", .ofNat v.page.pageNumber), ("pageCount", .ofNat v.page.pageCount),
    ("viewCount", .ofNat v.page.viewCount), ("selectionCount", .ofNat v.page.selectionCount),
    ("selectionSize", .ofUInt64 v.page.selectionSize),
    ("selectionDuration", .ofBinary64 v.page.selectionDuration),
    ("sources", SourcePath.listToJson v.layers.sources),
    ("classifierPath", Value.listToJson v.layers.path),
    ("search", .ofOption Search.toJson v.layers.search),
    ("sort", SortKey.listToJson v.layers.sort),
    ("groups", .ofOption (fun groups => .arr (groups.map GroupSummary.toJson)) v.groups),
    ("groupId", .ofUInt64 v.layers.group)]

end MediaLibrary.ViewResult
