/-
What becomes of what is remembered.

The groups of a view and the index of moved files are remembered between operations.  For
someone who wants to know whether they are up to date, the operations are of few kinds: most of
those that write drop everything, and most of the others change nothing but the layers.
`Becomes` lists the kinds.  The two that write and need not drop anything, setting the values of
a property and an import that is refused, are listed by themselves.
-/
import MediaLibrary.Proofs.Library.Sound
import MediaLibrary.Proofs.View.Parameters

namespace MediaLibrary

/-! ### Caches that were dropped -/

/-- Nothing is remembered. -/
structure Caches.Forgotten (c : Caches) : Prop where
  groups : c.groups.entries = []
  moves : c.moves.index = none

theorem Caches.forgotten_invalidate (c : Caches) : (invalidate c).Forgotten where
  groups := by simp [invalidate, GroupMemo.invalidate, GroupMemo.invalidateKeeping]
  moves := rfl

/-- What was dropped is not brought back by an operation on the layers. -/
theorem Caches.Forgotten.of_follows {p p' : Parameters Caches} (h : p.caches.Forgotten)
    (hfollows : p.Follows p') : p'.caches.Forgotten := by
  cases hfollows with
  | kept layers hlayers => exact h
  | dropped layers => exact forgotten_invalidate _

namespace Library

variable {l : Library}

open LibraryM

/-! ### Kinds of operations -/

/-- What an operation may leave of a library and of what it remembers. -/
inductive Becomes (l : Library) : LibraryOperation → Library → Prop
  | dropped {operation : LibraryOperation} {l' : Library} (h : l'.parameters.caches.Forgotten) :
      Becomes l operation l'
  | layered {operation : LibraryOperation} {parameters : Parameters Caches}
      (hfollows : l.parameters.Follows parameters) : Becomes l operation { l with parameters }
  | seen {operation : LibraryOperation} {l' : Library} (hseen : l.Seen l') : Becomes l operation l'
  /-- The value of a group that was looked at is followed. -/
  | followed {operation : LibraryOperation} {l' : Library} (path : List Value)
      (hseen : l.Seen l') :
      Becomes l operation { l' with parameters := l'.parameters.withPath path }
  | described {operation : LibraryOperation} (described : Option (List Description)) :
      Becomes l operation { l with catalog := { l.catalog with described } }
  | asked {operation : LibraryOperation} : Becomes l operation l.withKnownMoves
  | tagged {ids : List RecordId} (property : String) {raw values : List Value} {count : Nat}
      {store : Store} (hset : l.store.setValues ids property values = .ok (count, store)) :
      Becomes l (.setTag ids property raw)
        { l with store, parameters := (l.parameters.notifyModified property true).2 }
  | stopped {records : List Record} {e : LibraryError} {l' : Library}
      (hrefused : importRecords records l = .error e l') : Becomes l (.importRecords records) l'

/-- An import that is carried out drops everything. -/
theorem becomes_importRecords (records : List Record) :
    l.Becomes (.importRecords records) (l.after (.importRecords records)) := by
  have hends : Ensures (importRecords records) l (fun _ l' => l'.parameters.caches.Forgotten)
      fun _ => True :=
    ensures_importRecords (fun _ => True) trivial (fun _ _ _ _ _ _ _ _ => trivial)
      (fun _ _ => trivial) fun _ _ _ => Caches.forgotten_invalidate _
  rw [after_importRecords]
  cases hrun : importRecords records l with
  | ok ids l' => exact .dropped (hends.of_ok hrun)
  | error e l' => exact .stopped hrun

/-- **What becomes of a library**, be the operation carried out or refused. -/
theorem becomes_after (hs : l.Sound) (operation : LibraryOperation) :
    l.Becomes operation (l.after operation) := by
  have hsame : ∀ operation, l.Becomes operation l := fun _ => .layered (.refl _)
  have hdropped : ∀ {operation : LibraryOperation} {store : Store} {catalog : Catalog}
      {parameters : Parameters Caches}, l.parameters.forceUpdate.Follows parameters →
      l.Becomes operation ⟨store, catalog, parameters⟩ := fun hfollows =>
    .dropped ((Caches.forgotten_invalidate _).of_follows hfollows)
  have hforced : ∀ {operation : LibraryOperation} {store : Store} {catalog : Catalog},
      l.Becomes operation ⟨store, catalog, l.parameters.forceUpdate⟩ := hdropped (.refl _)
  have hpath : ∀ {operation : LibraryOperation} (path : List Value),
      l.Becomes operation { l with parameters := l.parameters.withPath path } :=
    fun path => .layered (Parameters.follows_withPath path)
  cases operation with
  | importRecords records => exact becomes_importRecords records
  | insertRecord r =>
      exact after_of_leaves
        (leaves_discard.mpr (ensures_insertRecord (hsame _) fun _ _ _ _ _ _ => hforced))
  | updateRecord r =>
      exact after_of_leaves (ensures_updateRecord (hsame _) fun _ _ _ _ _ => hforced)
  | removeRecord id =>
      exact after_of_leaves (leaves_discard.mpr (ensures_removeRecord (fun _ => hforced) (hsame _)))
  | setTag ids property raw =>
      exact after_of_leaves
        (leaves_discard.mpr (ensures_setTag (hsame _) fun _ _ _ _ hset => .tagged property hset))
  | defineProperty name kind multiple enumeration default =>
      exact after_of_leaves (ensures_defineProperty (hsame _) fun _ _ _ _ _ _ => hforced)
  | renameProperty old new =>
      exact after_of_leaves (ensures_renameProperty (fun _ _ => hsame _) fun _ _ _ _ _ =>
        hdropped (Parameters.follows_renameGroupingProperty _ _))
  | removeProperty name =>
      refine after_of_leaves (ensures_removeProperty (hsame _) fun catalog count store _ _ => ?_)
      split
      · exact hdropped (Parameters.follows_reset _)
      · exact hforced
  | setMultiplicity name multiple =>
      refine after_of_leaves (ensures_setMultiplicity (hsame _) fun catalog count store _ _ => ?_)
      have hnotified := (Caches.forgotten_invalidate l.parameters.caches).of_follows
        (Parameters.follows_notifyModified (p := l.parameters.forceUpdate) name true)
      split
      · exact hforced
      · split
        · exact .dropped (hnotified.of_follows (Parameters.follows_withPath []))
        · exact .dropped hnotified
  | describeProperties =>
      exact after_of_leaves (leaves_discard.mpr (ensures_describeProperties fun _ all =>
        .described all))
  | setSources sources => exact .layered (Parameters.follows_setSources sources)
  | setSearch search => exact .layered (Parameters.follows_setSearch search)
  | setGrouping grouping =>
      exact after_of_leaves (ensures_setGrouping (hsame _) fun _ =>
        .layered (Parameters.follows_setGrouping grouping))
  | classifierPush value =>
      exact after_of_leaves (ensures_classifierPush (hsame _) fun path _ => hpath path)
  | setClassifier path =>
      exact after_of_leaves (ensures_setClassifier (hsame _) fun path _ => hpath path)
  | classifierPop => exact hpath _
  | classifierReset => exact hpath []
  | classifierSelectGroup =>
      exact after_of_leaves (leaves_discard.mpr (leaves_classifierSelectGroup
        (fun _ hseen => .seen hseen) fun _ path hseen _ => .followed path hseen))
  | setGroup group => exact .layered (Parameters.follows_setGroup group)
  | setSort sort => exact .layered (Parameters.follows_setSort sort)
  | reset layer => exact .layered (Parameters.follows_reset layer)
  | forceUpdate => exact hforced
  | view request =>
      exact after_of_leaves (leaves_discard.mpr
        ((leaves_view l request).imp (fun _ _ => .seen) fun _ => .seen))
  | column selector field =>
      exact after_of_leaves (leaves_discard.mpr
        ((leaves_column l selector field).imp (fun _ _ => .seen) fun _ => .seen))
  | moveIndex => exact after_of_leaves (leaves_discard.mpr (ensures_moveIndex.mpr .asked))
  | moveCandidates id =>
      exact after_of_leaves (leaves_discard.mpr (ensures_moveCandidates.mpr .asked))
  | moveLabel id => exact after_of_leaves (leaves_discard.mpr (ensures_moveLabel.mpr .asked))
  | applyMove missing found =>
      exact after_of_leaves (ensures_applyMove hs.store .asked fun _ _ _ _ _ _ _ _ => hforced)
  | reopen => exact .dropped ⟨rfl, rfl⟩

end Library

end MediaLibrary
