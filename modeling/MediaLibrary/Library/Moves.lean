/-
Moved files in a library.
-/
import MediaLibrary.Library.Basic

namespace MediaLibrary.LibraryM

/-- The index of moved files, remembered or made. -/
def moveIndex : LibraryM MoveIndex :=
  modifyGet fun l =>
    let (index, memo) := l.parameters.caches.moves.indexOf l.store.toList
    (index, { l with parameters.caches.moves := memo })

/-- The found records that a missing record may have become. -/
def moveCandidates (id : RecordId) : LibraryM (List MoveDestination) :=
  return (← moveIndex).candidates id

/-- The label of the move group of a record. -/
def moveLabel (id : RecordId) : LibraryM (Option String) :=
  return (← moveIndex).label? id

/-- Resolves a move: the missing record takes the path and the state of the found one,
which is removed. -/
def applyMove (missing found : RecordId) : LibraryM Unit := do
  let candidates ← moveCandidates missing
  unless candidates.any (·.recordId = found) do
    throw (.notCandidate missing found)
  let l ← get
  let record ← check .store (l.store.require missing)
  let destination ← check .store (l.store.require found)
  let _ ← changeStore (·.remove found)
  let _ ← storeRecord { record with path := destination.path, flags := destination.flags }
  forceUpdate

end MediaLibrary.LibraryM
