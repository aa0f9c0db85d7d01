/-
What the index of moved files is made of.

The index looks at little of a record: at its identifier and its path, at its flags, and at the
three numbers of its fingerprint.  Whatever else of the records is edited, their index is the
same.
-/
import MediaLibrary.Moves.Index
import MediaLibrary.Proofs.OrderedMap

namespace MediaLibrary

open Std

/-- The edit leaves alone what the index of moved files looks at. -/
structure KeepsTrace (edit : Record → Record) : Prop where
  destination : ∀ r, MoveDestination.ofRecord (edit r) = MoveDestination.ofRecord r
  fingerprint : ∀ r, Fingerprint.ofRecord (edit r) = Fingerprint.ofRecord r
  flags : ∀ r, (edit r).flags = r.flags

theorem KeepsTrace.id {edit : Record → Record} (h : KeepsTrace edit) (r : Record) :
    (edit r).id = r.id :=
  congrArg MoveDestination.recordId (h.destination r)

theorem keepsTrace_setValues (property : String) (values : List Value) :
    KeepsTrace (·.setValues property values) :=
  ⟨fun _ => rfl, fun _ => rfl, fun _ => rfl⟩

/-- Some of the records are edited. -/
theorem KeepsTrace.ite {edit : Record → Record} (h : KeepsTrace edit) (which : Record → Bool) :
    KeepsTrace fun r => if which r then edit r else r := by
  refine ⟨fun r => ?_, fun r => ?_, fun r => ?_⟩
  · split
    · exact h.destination r
    · rfl
  · split
    · exact h.fingerprint r
    · rfl
  · split
    · exact h.flags r
    · rfl

namespace MoveIndex

variable {edit : Record → Record}

theorem byFingerprint_map (h : KeepsTrace edit) (records : List Record) :
    byFingerprint (records.map edit) = (byFingerprint records).map fun _ same => same.map edit := by
  induction records with
  | nil =>
      refine ExtTreeMap.ext_getElem? fun key => ?_
      simp [byFingerprint]
  | cons r rest ih =>
      show (byFingerprint (rest.map edit)).insert (Fingerprint.ofRecord (edit r))
          (edit r :: (byFingerprint (rest.map edit)).getD (Fingerprint.ofRecord (edit r)) []) =
        ((byFingerprint rest).insert (Fingerprint.ofRecord r)
          (r :: (byFingerprint rest).getD (Fingerprint.ofRecord r) [])).map _
      rw [ih, h.fingerprint]
      refine ExtTreeMap.ext_getElem? fun key => ?_
      rw [OrderedMap.getElem?_insert, ExtTreeMap.getElem?_map, ExtTreeMap.getElem?_map,
        OrderedMap.getElem?_insert, ExtTreeMap.getD_eq_getD_getElem?,
        ExtTreeMap.getD_eq_getD_getElem?, ExtTreeMap.getElem?_map]
      split
      · cases (byFingerprint rest)[Fingerprint.ofRecord r]? <;> rfl
      · rfl

theorem addGroup_map (h : KeepsTrace edit) (index : MoveIndex) (label : String)
    (missing found : List Record) :
    index.addGroup label (missing.map edit) (found.map edit) =
      index.addGroup label missing found := by
  have hdestinations : (found.map edit).map MoveDestination.ofRecord =
      found.map MoveDestination.ofRecord := by
    rw [List.map_map]
    exact List.map_congr_left fun r _ => h.destination r
  unfold addGroup
  rw [hdestinations, ← List.map_append]
  simp only [List.foldl_map, h.id]

private theorem filter_map {p : Record → Bool} (hp : ∀ r, p (edit r) = p r)
    (records : List Record) : (records.map edit).filter p = (records.filter p).map edit := by
  have heq : p ∘ edit = p := funext hp
  rw [List.filter_map, heq]

/-- **What the index does not look at may be edited.** -/
theorem ofRecords_map (h : KeepsTrace edit) (records : List Record) :
    ofRecords (records.map edit) = ofRecords records := by
  have hreadable := filter_map (p := (·.flags.readable)) (fun r => by rw [h.flags]) records
  have hmissing := filter_map (p := (!·.flags.found)) (fun r => by rw [h.flags])
    (records.filter (·.flags.readable))
  have hfound := filter_map (p := (·.flags.found)) (fun r => by rw [h.flags])
    (records.filter (·.flags.readable))
  have hsorted : ∀ found : List Record,
      (found.map edit).mergeSort (fun a b => decide (a.id ≤ b.id)) =
        (found.mergeSort fun a b => decide (a.id ≤ b.id)).map edit := fun found =>
    (List.map_mergeSort fun a _ b _ => by rw [h.id, h.id]).symm
  unfold ofRecords
  dsimp only
  rw [hreadable, hmissing, hfound, hsorted, byFingerprint_map h, byFingerprint_map h,
    ExtTreeMap.toList_map, List.foldl_map]
  -- Both go through the same missing records, and look for the same found ones.
  refine congrArg (fun step => List.foldl step empty _) ?_
  funext index group
  rw [ExtTreeMap.getElem?_map]
  cases (byFingerprint _)[group.1]? with
  | none => rfl
  | some found => exact addGroup_map h index _ _ found

end MoveIndex

end MediaLibrary
