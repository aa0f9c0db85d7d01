/-
Remembered groupings.

Grouping all records of a view takes a pass over them, so the groups of a view are
remembered until something they depend on changes.  An entry is found by the layers
it was computed from and by a generation number.  Dropping the entries raises the
number, so an entry from before is never found again, even where it is still kept.
A computation that fails leaves no entry.
-/
import MediaLibrary.Grouping.Groups

namespace MediaLibrary

/-- The layers of a view on which its groups depend. -/
structure GroupingKey where
  sources : List SourcePath
  search : Option Search
  grouping : Grouping
  path : List Value
  deriving DecidableEq

/-- Remembered results, each under the generation and the key of its computation. -/
structure GroupMemo where
  generation : Nat := 0
  entries : List ((Nat × GroupingKey) × List Group) := []

namespace GroupMemo

/-- The result remembered for a key in the current generation. -/
def find? (m : GroupMemo) (key : GroupingKey) : Option (List Group) :=
  m.entries.lookup (m.generation, key)

/-- Whether a result is remembered for a key. -/
def contains (m : GroupMemo) (key : GroupingKey) : Bool :=
  (m.find? key).isSome

/-- The memo with a result for a key. -/
def insert (m : GroupMemo) (key : GroupingKey) (groups : List Group) : GroupMemo :=
  { m with entries := ((m.generation, key), groups) :: m.entries }

/-- The groups for a key: the remembered ones, or else those that are computed and
then remembered.  Computing may have effects, which it has if it comes to that. -/
def groupsWithM {μ : Type → Type} [Monad μ] (m : GroupMemo) (key : GroupingKey)
    (compute : Unit → μ (Except QueryError (List Group))) :
    μ (Except QueryError (List Group) × GroupMemo) :=
  match m.find? key with
  | some groups => pure (.ok groups, m)
  | none => do
    match ← compute () with
    | .error e => pure (.error e, m)
    | .ok groups => pure (.ok groups, m.insert key groups)

/-- The groups for a key, by a computation without effects. -/
def groupsWith (m : GroupMemo) (key : GroupingKey)
    (compute : Unit → Except QueryError (List Group)) :
    Except QueryError (List Group) × GroupMemo :=
  Id.run (m.groupsWithM key fun _ => pure (compute ()))

/-- Starts a new generation, where any of the old entries may be kept. -/
def invalidateKeeping (keep : (Nat × GroupingKey) × List Group → Bool) (m : GroupMemo) :
    GroupMemo :=
  ⟨m.generation + 1, m.entries.filter keep⟩

/-- Starts a new generation without entries. -/
def invalidate (m : GroupMemo) : GroupMemo :=
  m.invalidateKeeping fun _ => false

end GroupMemo

end MediaLibrary
