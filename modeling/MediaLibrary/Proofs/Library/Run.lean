/-
Runs of the library.

`LibraryOperation` lists everything that can be asked of a library, and `afterAll` follows
a run from the empty one.  A refused operation is part of a run: it leaves whatever it had
changed before it was refused.
-/
import MediaLibrary.Library.Definitions
import MediaLibrary.Library.Moves
import MediaLibrary.Library.Records
import MediaLibrary.Library.Views
import MediaLibrary.Proofs.Library.Program

namespace MediaLibrary

/-- What can be asked of a library. -/
inductive LibraryOperation where
  | importRecords (records : List Record)
  | insertRecord (r : Record)
  | updateRecord (r : Record)
  | removeRecord (id : RecordId)
  | setTag (ids : List RecordId) (property : String) (raw : List Value)
  | defineProperty (name : String) (kind : Kind) (multiple : Bool)
    (enumeration : Option (List Value)) (default : Option Value)
  | renameProperty (old new : String)
  | removeProperty (name : String)
  | setMultiplicity (name : String) (multiple : Bool)
  | describeProperties
  | setSources (sources : List SourcePath)
  | setSearch (search : Option Search)
  | setGrouping (grouping : Option Grouping)
  | classifierPush (value : Value)
  | setClassifier (path : List Value)
  | classifierPop
  | classifierReset
  | classifierSelectGroup
  | setGroup (group : UInt64)
  | setSort (sort : List SortKey)
  | reset (layer : Layer)
  | forceUpdate
  | view (request : PageRequest)
  | column (selector : Option Selector) (field : Field)
  | moveIndex
  | moveCandidates (id : RecordId)
  | moveLabel (id : RecordId)
  | applyMove (missing found : RecordId)
  | reopen

namespace LibraryM

/-- Opens the library again on its store, with the layers that a new library has. -/
def reopen : LibraryM Unit :=
  modify fun l => .ofStore l.store

end LibraryM

namespace LibraryOperation

/-- The program of an operation, its answer aside. -/
def program : LibraryOperation → LibraryM Unit
  | importRecords records => discard (LibraryM.importRecords records)
  | insertRecord r => discard (LibraryM.insertRecord r)
  | updateRecord r => LibraryM.updateRecord r
  | removeRecord id => discard (LibraryM.removeRecord id)
  | setTag ids property raw => discard (LibraryM.setTag ids property raw)
  | defineProperty name kind multiple enumeration default =>
    LibraryM.defineProperty name kind multiple enumeration default
  | renameProperty old new => LibraryM.renameProperty old new
  | removeProperty name => LibraryM.removeProperty name
  | setMultiplicity name multiple => LibraryM.setMultiplicity name multiple
  | describeProperties => discard LibraryM.describeProperties
  | setSources sources => LibraryM.setSources sources
  | setSearch search => LibraryM.setSearch search
  | setGrouping grouping => LibraryM.setGrouping grouping
  | classifierPush value => LibraryM.classifierPush value
  | setClassifier path => LibraryM.setClassifier path
  | classifierPop => discard LibraryM.classifierPop
  | classifierReset => LibraryM.classifierReset
  | classifierSelectGroup => discard LibraryM.classifierSelectGroup
  | setGroup group => LibraryM.setGroup group
  | setSort sort => LibraryM.setSort sort
  | reset layer => LibraryM.reset layer
  | forceUpdate => LibraryM.forceUpdate
  | view request => discard (LibraryM.view request)
  | column selector field => discard (LibraryM.column selector field)
  | moveIndex => discard LibraryM.moveIndex
  | moveCandidates id => discard (LibraryM.moveCandidates id)
  | moveLabel id => discard (LibraryM.moveLabel id)
  | applyMove missing found => LibraryM.applyMove missing found
  | reopen => LibraryM.reopen

end LibraryOperation

namespace Library

/-- The library that an operation leaves, be it carried out or refused. -/
def after (l : Library) (operation : LibraryOperation) : Library :=
  match operation.program l with
  | .ok _ l => l
  | .error _ l => l

/-- The library after some operations on the empty one. -/
def afterAll (operations : List LibraryOperation) : Library :=
  operations.foldl after empty

theorem afterAll_append (operations more : List LibraryOperation) :
    afterAll (operations ++ more) = more.foldl after (afterAll operations) :=
  List.foldl_append

theorem after_of_leaves {l : Library} {operation : LibraryOperation} {holds : Library → Prop}
    (h : LibraryM.Leaves operation.program l holds) : holds (l.after operation) := by
  unfold LibraryM.Leaves LibraryM.Ensures at h
  unfold after
  cases hrun : operation.program l with
  | ok answer l' =>
      rw [hrun] at h
      exact h
  | error e l' =>
      rw [hrun] at h
      exact h

/-- An operation that is not refused leaves the library with which it answers. -/
theorem after_of_ok {l l' : Library} (operation : LibraryOperation)
    (h : operation.program l = .ok () l') : l.after operation = l' := by
  unfold after
  rw [h]

/-- A refused import leaves what it had stored. -/
theorem after_importRecords (l : Library) (records : List Record) :
    l.after (.importRecords records) =
      match LibraryM.importRecords records l with
      | .ok _ l' => l'
      | .error _ l' => l' := by
  show (match EStateM.map (fun _ => ()) (LibraryM.importRecords records) l with
    | .ok _ l' => l'
    | .error _ l' => l') = _
  unfold EStateM.map
  cases LibraryM.importRecords records l <;> rfl

/-- What every operation keeps holds after every run. -/
theorem afterAll_induction {holds : Library → Prop} (hempty : holds empty)
    (hstep : ∀ l operation, holds l → holds (l.after operation))
    (operations : List LibraryOperation) : holds (afterAll operations) := by
  have hrun : ∀ (operations : List LibraryOperation) (l : Library), holds l →
      holds (operations.foldl after l) := by
    intro operations
    induction operations with
    | nil => exact fun l h => h
    | cons operation rest ih => exact fun l h => ih (l.after operation) (hstep l operation h)
  exact hrun operations empty hempty

theorem afterAll_concat (operations : List LibraryOperation) (operation : LibraryOperation) :
    afterAll (operations ++ [operation]) = (afterAll operations).after operation :=
  afterAll_append operations [operation]

/-- The same where the operations of the run are known, and it matters what came before each. -/
theorem afterAll_prefix_induction {holds : Library → Prop} {operations : List LibraryOperation}
    (hempty : holds empty)
    (hstep : ∀ earlier operation, earlier ++ [operation] <+: operations →
      holds (afterAll earlier) → holds ((afterAll earlier).after operation)) :
    holds (afterAll operations) := by
  have hrun : ∀ rest earlier, earlier ++ rest = operations → holds (afterAll earlier) →
      holds (afterAll operations) := by
    intro rest
    induction rest with
    | nil =>
        rintro earlier rfl h
        rwa [List.append_nil]
    | cons operation rest ih =>
        intro earlier heq h
        rw [List.append_cons] at heq
        refine ih (earlier ++ [operation]) heq ?_
        rw [afterAll_concat]
        exact hstep earlier operation ⟨rest, heq⟩ h
  exact hrun operations [] rfl hempty

end Library

namespace LibraryM

/-- An answer that is not looked at may be left out. -/
theorem leaves_discard {α : Type} {program : LibraryM α} {l : Library}
    {holds : Library → Prop} : Leaves (discard program) l holds ↔ Leaves program l holds :=
  ensures_map

end LibraryM

end MediaLibrary
