/-
Identifiers over the life of a library.

An import may store some records and then be refused, and records that are stored may be removed
later on.  The next identifier follows all of that and never becomes smaller, be an operation
carried out or refused.  So after any run it is above every identifier under which a record has
ever stood.
-/
import MediaLibrary.Proofs.Library.Sound
import MediaLibrary.Proofs.Store.Identifiers
import MediaLibrary.Proofs.Store.Placed

namespace MediaLibrary

/-- A change of the catalog assigns no identifiers. -/
theorem Store.Sound.nextId_of_applyChange {s s' : Store} (h : s.Sound) {change : CatalogChange}
    {count : Nat} (hs : s.applyChange change = .ok (count, s')) (c : Catalog) :
    (s'.keepDefinitions c change).nextId = s.nextId := by
  obtain ⟨hsound, _⟩ := h.of_applyChange hs
  have hsame : s'.nextId = s.nextId :=
    PlainStore.nextId_of_applyChange (h.plain_of_applyChange hs).symm
  exact (hsound.keepDefinitions c change).2.2.trans hsame

namespace Library

open LibraryM

variable {l l' : Library} {operations : List LibraryOperation} {id : RecordId}

/-! ### The next identifier -/

/-- **No operation makes the next identifier smaller**, be it carried out or refused. -/
theorem Sound.nextId_le_after (h : l.Sound) (operation : LibraryOperation) :
    l.store.nextId ≤ (l.after operation).store.nextId := by
  have hsame : l.store.nextId ≤ l.store.nextId := UInt64.le_refl _
  have hseen : ∀ {l' : Library}, l.Seen l' → l.store.nextId ≤ l'.store.nextId := by
    rintro _ (_ | _) <;> exact hsame
  have hinsert : ∀ {r : Record} {id : RecordId} {store : Store},
      l.store.insert r = .ok (id, store) → l.store.nextId ≤ store.nextId :=
    fun hs => (Store.insert_next hs).1
  have hchange : ∀ {change : CatalogChange} {count : Nat} {store : Store} (c : Catalog),
      l.store.applyChange change = .ok (count, store) →
      l.store.nextId ≤ (store.keepDefinitions c change).nextId := fun c hs =>
    UInt64.le_of_eq (h.store.nextId_of_applyChange hs c).symm
  suffices hleaves : Leaves operation.program l fun l' => l.store.nextId ≤ l'.store.nextId from
    after_of_leaves hleaves
  cases operation with
  | importRecords records =>
      refine leaves_discard.mpr (ensures_importRecords
        (fun l' => l.store.nextId ≤ l'.store.nextId) hsame ?_ (fun _ h => h) fun _ _ h => h)
      exact fun l' q r id store hl' _ hs => UInt64.le_trans hl' (Store.insert_next hs).1
  | insertRecord r =>
      exact leaves_discard.mpr (ensures_insertRecord hsame fun _ _ _ _ _ hs => hinsert hs)
  | updateRecord r => exact ensures_updateRecord hsame fun _ _ _ _ hs => hinsert hs
  | removeRecord id =>
      refine leaves_discard.mpr (ensures_removeRecord (fun _ => ?_) hsame)
      exact UInt64.le_of_eq (Store.nextId_remove l.store id).symm
  | setTag ids property raw =>
      refine leaves_discard.mpr (ensures_setTag hsame fun _ _ _ _ hs => ?_)
      obtain ⟨_, which, hplain⟩ := h.store.of_setValues hs
      exact UInt64.le_of_eq (congrArg PlainStore.nextId hplain).symm
  | defineProperty name kind multiple enumeration default =>
      exact ensures_defineProperty hsame fun c _ _ _ _ hs => hchange c hs
  | renameProperty old new =>
      exact ensures_renameProperty (fun _ _ => hsame) fun c _ _ _ hs => hchange c hs
  | removeProperty name => exact ensures_removeProperty hsame fun c _ _ _ hs => hchange c hs
  | setMultiplicity name multiple =>
      exact ensures_setMultiplicity hsame fun c _ _ _ hs => hchange c hs
  | describeProperties => exact leaves_discard.mpr (ensures_describeProperties fun _ _ => hsame)
  | setSources sources => exact hsame
  | setSearch search => exact hsame
  | setGrouping grouping => exact ensures_setGrouping hsame fun _ => hsame
  | classifierPush value => exact ensures_classifierPush hsame fun _ _ => hsame
  | setClassifier path => exact ensures_setClassifier hsame fun _ _ => hsame
  | classifierPop => exact hsame
  | classifierReset => exact hsame
  | classifierSelectGroup =>
      refine leaves_discard.mpr (leaves_classifierSelectGroup (fun _ => hseen) ?_)
      exact fun l' _ hl' _ => (hseen hl' : l.store.nextId ≤ l'.store.nextId)
  | setGroup group => exact hsame
  | setSort sort => exact hsame
  | reset layer => exact hsame
  | forceUpdate => exact hsame
  | view request =>
      exact leaves_discard.mpr
        ((leaves_view l request).imp (fun _ _ => hseen) fun _ => hseen)
  | column selector field =>
      exact leaves_discard.mpr
        ((leaves_column l selector field).imp (fun _ _ => hseen) fun _ => hseen)
  | moveIndex => exact leaves_discard.mpr (ensures_moveIndex.mpr hsame)
  | moveCandidates id => exact leaves_discard.mpr (ensures_moveCandidates.mpr hsame)
  | moveLabel id => exact leaves_discard.mpr (ensures_moveLabel.mpr hsame)
  | applyMove missing found =>
      refine ensures_applyMove h.store hsame fun _ _ _ store _ _ _ hs => ?_
      have hnext := (Store.insert_next hs).1
      rwa [Store.nextId_remove] at hnext
  | reopen => exact hsame

theorem nextId_le_foldl (operations : List LibraryOperation) :
    ∀ {l : Library}, l.Sound → l.store.nextId ≤ (operations.foldl after l).store.nextId := by
  induction operations with
  | nil => exact fun _ => UInt64.le_refl _
  | cons operation rest ih =>
      intro l h
      exact UInt64.le_trans (h.nextId_le_after operation) (ih (h.after operation))

/-! ### Identifiers that were in use -/

/-- At some point of the run a record stood under the identifier. -/
def EverStored (operations : List LibraryOperation) (id : RecordId) : Prop :=
  ∃ earlier, earlier <+: operations ∧ (afterAll earlier).store.contains id = true

/-- **The next identifier is above every one that was ever in use.** -/
theorem EverStored.lt_nextId (h : EverStored operations id) :
    id < (afterAll operations).store.nextId := by
  obtain ⟨earlier, ⟨later, rfl⟩, hcontains⟩ := h
  have hsound : (afterAll earlier).Sound := sound_afterAll earlier
  rw [afterAll_append]
  exact UInt64.lt_of_lt_of_le (hsound.store.given_of_contains hcontains).2
    (nextId_le_foldl later hsound)

end Library

end MediaLibrary
