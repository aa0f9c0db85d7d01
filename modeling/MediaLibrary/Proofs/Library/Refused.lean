/-
Operations that are refused.

An operation that changes several things is refused before it changes the first of them.
Values are checked before a record is looked at, all records are found before one is written,
a definition is changed in a copy of the catalog, and a layer is set once its value is known
to be good.  Records that are written one after the other are all written: they were stored
before, and `Store.Sound.stores_of_setValues` and `Store.Sound.stores_of_applyChange` say that
the store takes each of them again.

So a refused operation leaves no trace, unless it is one of three that do something else
first.
-/
import MediaLibrary.Proofs.Library.Answered

namespace MediaLibrary

/-- The operation may be refused after it has changed something: an import stores one record
after the other, and two operations choose a group before they are refused. -/
def LibraryOperation.changesFirst : LibraryOperation → Bool
  | .importRecords _ => true
  | .classifierSelectGroup => true
  | .column _ _ => true
  | _ => false

namespace Library

variable {l : Library}

/-- The records with their indices, the definitions, the layers and the remembered groups are
the same.  Only the index of moved files may be remembered. -/
structure Untouched (l l' : Library) : Prop where
  store : l'.store = l.store
  catalog : l'.catalog = l.catalog
  layers : l'.layers = l.layers
  memo : l'.memo = l.memo

theorem Untouched.refl (l : Library) : l.Untouched l := ⟨rfl, rfl, rfl, rfl⟩

open LibraryM

/-- **An operation that is refused leaves no trace.** -/
theorem Sound.ensures_untouched (h : l.Sound) {operation : LibraryOperation}
    (hoperation : operation.changesFirst = false) :
    Ensures operation.program l (fun _ _ => True) l.Untouched := by
  have hsame : l.Untouched l := .refl l
  cases operation with
  | importRecords records => cases hoperation
  | insertRecord r => exact ensures_map.mpr (ensures_insertRecord hsame fun _ _ _ _ _ _ => trivial)
  | updateRecord r => exact ensures_updateRecord hsame fun _ _ _ _ _ => trivial
  | removeRecord id =>
      exact ensures_map.mpr (ensures_removeRecord (fun _ => trivial) trivial)
  | setTag ids property raw =>
      exact ensures_map.mpr (ensures_setTag hsame fun _ _ _ _ _ => trivial)
  | defineProperty name kind multiple enumeration default =>
      exact ensures_defineProperty hsame fun _ _ _ _ _ _ => trivial
  | renameProperty old new => exact ensures_renameProperty (fun _ _ => hsame) fun _ _ _ _ _ => trivial
  | removeProperty name => exact ensures_removeProperty hsame fun _ _ _ _ _ => trivial
  | setMultiplicity name multiple =>
      exact ensures_setMultiplicity hsame fun _ _ _ _ _ => trivial
  | describeProperties => exact ensures_map.mpr (ensures_describeProperties fun _ _ => trivial)
  | setSources sources => exact trivial
  | setSearch search => exact trivial
  | setGrouping grouping => exact ensures_setGrouping hsame fun _ => trivial
  | classifierPush value => exact ensures_classifierPush hsame fun _ _ => trivial
  | setClassifier path => exact ensures_setClassifier hsame fun _ _ => trivial
  | classifierPop => exact trivial
  | classifierReset => exact trivial
  | classifierSelectGroup => cases hoperation
  | setGroup group => exact trivial
  | setSort sort => exact trivial
  | reset layer => exact trivial
  | forceUpdate => exact trivial
  | view request =>
      refine ensures_map.mpr ((h.ensures_view request).imp (fun _ _ _ => trivial) ?_)
      exact fun _ => False.elim
  | column selector field => cases hoperation
  | moveIndex => exact ensures_map.mpr (ensures_moveIndex.mpr trivial)
  | moveCandidates id => exact ensures_map.mpr (ensures_moveCandidates.mpr trivial)
  | moveLabel id => exact ensures_map.mpr (ensures_moveLabel.mpr trivial)
  | applyMove missing found =>
      exact ensures_applyMove h.store ⟨rfl, rfl, rfl, rfl⟩ fun _ _ _ _ _ _ _ _ => trivial
  | reopen => exact trivial

/-- **A refused operation leaves no trace.**  After any run, an operation that is refused leaves
the store as it was, with its records, both indices, the kept definitions and the next
identifier, and the catalog and all layers of the view.  So do all operations but an import,
which stores one record after the other, and two that choose a group first. -/
theorem refused_operation_leaves_no_trace (operations : List LibraryOperation)
    (operation : LibraryOperation) (hoperation : operation.changesFirst = false)
    (e : LibraryError) (l' : Library)
    (hrefused : operation.program (afterAll operations) = .error e l') :
    l'.store = (afterAll operations).store ∧ l'.catalog = (afterAll operations).catalog ∧
      l'.layers = (afterAll operations).layers := by
  obtain ⟨hstore, hcatalog, hlayers, _⟩ :=
    ((sound_afterAll operations).ensures_untouched hoperation).of_error hrefused
  exact ⟨hstore, hcatalog, hlayers⟩

/-- Of two records that are to be tagged, the second one is not there. -/
theorem refused_tag_leaves_no_trace :
    let operations : List LibraryOperation :=
      [.defineProperty "mood" .str true none none, .importRecords [{ path := "/a.mkv" }]]
    ∃ l', LibraryOperation.program (.setTag [1, 7] "mood" [.str "calm"]) (afterAll operations) =
        .error (.store (.recordNotFound 7)) l' ∧
      l'.store.get? 1 = some { id := 1, path := "/a.mkv" } := by
  intro operations
  have htold : (Checked.refusal? (LibraryOperation.program (.setTag [1, 7] "mood" [.str "calm"])
      (afterAll operations))).map (·.1) = some (.store (.recordNotFound 7)) := by decide +kernel
  obtain ⟨⟨_, l'⟩, hrefusal, rfl⟩ := Option.map_eq_some_iff.mp htold
  have hrefused := Checked.eq_error_of_refusal? hrefusal
  obtain ⟨hstore, _, _⟩ :=
    refused_operation_leaves_no_trace operations (.setTag [1, 7] "mood" [.str "calm"]) rfl _ l'
      hrefused
  refine ⟨l', hrefused, ?_⟩
  rw [hstore]
  decide +kernel

end Library

end MediaLibrary
