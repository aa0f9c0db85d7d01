/-
Moved files in JSON.
-/
import MediaLibrary.Json.Basic
import MediaLibrary.Moves.Index

namespace MediaLibrary

namespace MoveDestination

/-- A found file, by its record and its path. -/
def toJson (d : MoveDestination) : Json :=
  .obj [("recordId", .ofUInt64 d.recordId), ("path", .str d.path)]

end MoveDestination

namespace MoveIndex

/-- The missing records with their labels and destinations. -/
def toJson (index : MoveIndex) : Json :=
  .arr (index.toList.map fun (id, label, destinations) =>
    .obj [("recordId", .ofUInt64 id), ("moveGroupId", .ofOption .str label),
      ("destinations", .arr (destinations.map MoveDestination.toJson))])

end MoveIndex

end MediaLibrary
