/-
Imports that are carried out.

A batch is stored in another order than it was given: records that bring an identifier come first,
so that none is assigned which a later record brings.  The identifiers that are answered with are
put back into the order of the batch.  `Imports` says what the library is like afterwards, with
each record of the batch beside its identifier as `List.zip` puts them.

Records are paired with their identifiers throughout.  The pairs in the order of the batch and the
pairs in the order in which they were stored are permutations of each other, and among the records
without an identifier of their own the order is the same.
-/
import MediaLibrary.Proofs.Library.Identifiers
import MediaLibrary.Proofs.Library.Import
import MediaLibrary.Proofs.Record.Validated

namespace MediaLibrary

namespace Library

open LibraryM

variable {l l' : Library} {records checked : List Record} {ids : List RecordId}

/-- Identifiers that pass the check are told apart. -/
theorem nodup_of_idProblem?_eq_none {ids : List RecordId} :
    ∀ {seen : List RecordId}, l.idProblem? seen ids = none →
      (∀ id ∈ ids, id ∉ seen) ∧ ids.Nodup := by
  induction ids with
  | nil => simp
  | cons id rest ih =>
      intro seen h
      unfold idProblem? at h
      split at h
      · cases h
      · split at h
        · cases h
        · rename_i hfresh
          split at h
          · cases h
          · obtain ⟨hlater, hdistinct⟩ := ih h
            refine ⟨List.forall_mem_cons.mpr ⟨hfresh, fun other hother hseen => ?_⟩,
              List.nodup_cons.mpr ⟨fun hmem => ?_, hdistinct⟩⟩
            · exact hlater other hother (List.mem_cons_of_mem id hseen)
            · exact hlater id hmem List.mem_cons_self

/-! ### What an import leaves -/

/-- What an import that is carried out does to a library, if it answers with some identifiers. -/
structure Imports (records : List Record) (ids : List RecordId) (l l' : Library) : Prop where
  length : ids.length = records.length
  distinct : ids.Nodup
  /-- No record stood under any of the identifiers. -/
  free : ∀ id ∈ ids, l.store.get? id = none
  /-- A record that brings an identifier keeps it. -/
  own : ∀ p ∈ records.zip ids, p.1.id ≠ 0 → p.2 = p.1.id
  /-- An identifier that is assigned is above all that the records bring. -/
  above : ∀ p ∈ records.zip ids, p.1.id = 0 → ∀ r ∈ records, r.id < p.2
  /-- Identifiers are assigned in ascending order. -/
  ascending : (records.zip ids).Pairwise fun p q => p.1.id = 0 → q.1.id = 0 → p.2 < q.2
  /-- Under its identifier stands each record with the values that passed the check. -/
  stored : ∀ p ∈ records.zip ids, ∃ r, p.1.Validated l.catalog r ∧
    l'.store.get? p.2 = some { r with id := p.2 }
  /-- Records that were stored before are as they were. -/
  kept : ∀ id r, l.store.get? id = some r → l'.store.get? id = some r
  others : ∀ id, id ∉ ids → l'.store.get? id = l.store.get? id

/-- Records that passed the checks have the identifiers that they brought. -/
theorem Passes.map_id_eq (h : l.Passes records checked) :
    records.map Record.id = checked.map Record.id :=
  map_eq_of_forall₂ (Checked.forall₂_of_mapM records h.values) fun _ _ hvalidate =>
    (Catalog.admits_of_validateRecord hvalidate).2.1.symm

/-- Those that bring an identifier bring different ones. -/
theorem Passes.nodup_own (h : l.Passes records checked) (hlength : ids.length = checked.length) :
    (((checked.zip ids).filter (·.1.id ≠ 0)).map (·.1.id)).Nodup := by
  have hown : ((checked.zip ids).filter (·.1.id ≠ 0)).map (·.1.id) =
      (records.map Record.id).filter (· ≠ 0) := by
    calc ((checked.zip ids).filter (·.1.id ≠ 0)).map (·.1.id)
        = ((checked.zip ids).map (·.1.id)).filter (· ≠ 0) := by rw [List.filter_map]; rfl
      _ = (((checked.zip ids).map Prod.fst).map Record.id).filter (· ≠ 0) := by
        rw [List.map_map]
        rfl
      _ = (records.map Record.id).filter (· ≠ 0) := by
        rw [List.map_fst_zip (Nat.le_of_eq hlength.symm), h.map_id_eq]
  rw [hown]
  exact (nodup_of_idProblem?_eq_none h.ids).2

/-- An import assigns the identifiers with which it answers. -/
theorem exists_assigns (hrun : importRecords records l = .ok ids l') :
    ∃ checked, l.Passes records checked ∧ ids.length = checked.length ∧
      l.store.Assigns (checked.zip ids) l'.store := by
  obtain ⟨checked, store, hpasses, hlength, hplaces, rfl⟩ :=
    (ensures_import l records).of_ok hrun
  exact ⟨checked, hpasses, hlength, hplaces.assigns (hpasses.nodup_own hlength)⟩

/-- Identifiers that are assigned in a sound library are not in use, and neither are those that
pass the check. -/
theorem Sound.free_of_assigns (h : l.Sound) (hpasses : l.Passes records checked)
    (hassigns : l.store.Assigns (checked.zip ids) l'.store) :
    ∀ p ∈ checked.zip ids, l.store.get? p.2 = none := by
  intro p hp
  by_cases hassigned : p.1.id = 0
  · -- Identifiers in use were given away before the next one.
    cases hget : l.store.get? p.2 with
    | none => rfl
    | some q =>
        have hlt := (h.store.given p.2 q hget).2
        exact absurd hlt (UInt64.not_lt.mpr (hassigns.next p hp hassigned))
  · rw [hassigns.own p hp hassigned]
    exact (hpasses.of_id_ne (List.of_mem_zip hp).1 hassigned).1

/-- **What an import leaves.**  Identifiers that are assigned are not below the one that was
next. -/
theorem Sound.imports (h : l.Sound) (hrun : importRecords records l = .ok ids l') :
    Imports records ids l l' ∧
      ∀ p ∈ records.zip ids, p.1.id = 0 → l.store.nextId ≤ p.2 := by
  obtain ⟨checked, hpasses, hlength, hassigns⟩ := exists_assigns hrun
  have hids : (checked.zip ids).map Prod.snd = ids := List.map_snd_zip (Nat.le_of_eq hlength)
  have hfree : ∀ id ∈ ids, l.store.get? id = none := by
    intro id hid
    obtain ⟨p, hp, rfl⟩ := List.mem_map.mp (hids.symm ▸ hid)
    exact h.free_of_assigns hpasses hassigns p hp
  have hothers : ∀ id, id ∉ ids → l'.store.get? id = l.store.get? id := hids ▸ hassigns.others
  -- Beside the identifier of each record stands what the checks made of the record.
  have hbeside : ∀ p ∈ records.zip ids, ∃ r, l.catalog.validateRecord p.1 = .ok r ∧
      r.id = p.1.id ∧ (r, p.2) ∈ checked.zip ids := by
    intro p hp
    obtain ⟨r, hr, hmem⟩ := exists_of_mem_zip (Checked.forall₂_of_mapM records hpasses.values) hp
    exact ⟨r, hr, (Catalog.admits_of_validateRecord hr).2.1, hmem⟩
  have hnext : ∀ p ∈ records.zip ids, p.1.id = 0 → l.store.nextId ≤ p.2 := by
    intro p hp hassigned
    obtain ⟨r, _, hid, hmem⟩ := hbeside p hp
    exact hassigns.next (r, p.2) hmem (hid.trans hassigned)
  refine ⟨?_, hnext⟩
  constructor
  case length => simpa [hlength] using (congrArg List.length hpasses.map_id_eq).symm
  case distinct => exact hids ▸ hassigns.distinct
  case free => exact hfree
  case own =>
    intro p hp hown
    obtain ⟨r, _, hid, hmem⟩ := hbeside p hp
    exact (hassigns.own (r, p.2) hmem (by rwa [hid])).trans hid
  case above =>
    intro p hp hassigned q hq
    by_cases hown : q.id = 0
    · -- Zero is not given away.
      rw [hown]
      refine UInt64.lt_of_lt_of_le (UInt64.pos_iff_ne_zero.mpr h.store.next) (hnext p hp hassigned)
    · obtain ⟨r, _, hid, hmem⟩ := hbeside p hp
      have hbrought : q.id ∈ ((checked.zip ids).map Prod.fst).map Record.id := by
        rw [List.map_fst_zip (Nat.le_of_eq hlength.symm), ← hpasses.map_id_eq]
        exact List.mem_map_of_mem hq
      rw [List.map_map] at hbrought
      obtain ⟨q', hq', hsame⟩ := List.mem_map.mp hbrought
      have hsame : q'.1.id = q.id := hsame
      have hown' : q'.1.id ≠ 0 := hsame ▸ hown
      have hlt := hassigns.above q' hq' hown' (r, p.2) hmem (hid.trans hassigned)
      rwa [hassigns.own q' hq' hown', hsame] at hlt
  case ascending =>
    -- Only the identifiers that the records bring matter.
    have hsame : (records.zip ids).map (Prod.map Record.id id) =
        (checked.zip ids).map (Prod.map Record.id id) := by
      rw [← List.zip_map_left, ← List.zip_map_left, hpasses.map_id_eq]
    have hpairs : ((checked.zip ids).map (Prod.map Record.id id)).Pairwise
        fun p q => p.1 = 0 → q.1 = 0 → p.2 < q.2 := List.pairwise_map.mpr hassigns.ascending
    rw [← hsame] at hpairs
    exact List.pairwise_map.mp hpairs
  case stored =>
    intro p hp
    obtain ⟨r, hr, _, hmem⟩ := hbeside p hp
    exact ⟨r, Record.validated_of_validateRecord hr, hassigns.stored (r, p.2) hmem⟩
  case kept =>
    intro id r hr
    have hid : id ∉ ids := fun hid => by cases (hfree id hid).symm.trans hr
    exact (hothers id hid).trans hr
  case others => exact hothers

/-- **An import stores the batch under new identifiers.**  Take any state that a run reaches,
refused operations included, and a batch that is not refused.  There is one answer for each record,
no two of them are the same, and no record stood under any of them.  A record that brings an
identifier has it for an answer.  Those that are assigned to the others ascend in the order of the
batch, and are above all that the batch brings and all under which a record has ever stood, removed
ones included.  Under its identifier stands each record with the values that passed the check, and
without the properties that have none.  All other records are as they were. -/
theorem imported_records_are_stored (operations : List LibraryOperation)
    (hrun : importRecords records (afterAll operations) = .ok ids l') :
    Imports records ids (afterAll operations) l' ∧
      ∀ p ∈ records.zip ids, p.1.id = 0 →
        ∀ known, EverStored operations known → known < p.2 := by
  obtain ⟨himports, hnext⟩ := (sound_afterAll operations).imports hrun
  exact ⟨himports, fun p hp hassigned known hknown =>
    UInt64.lt_of_lt_of_le hknown.lt_nextId (hnext p hp hassigned)⟩

/-- Two records come without an identifier, and one between them brings 30.  Of the records that
were stored before, the one with the highest identifier has been removed. -/
theorem imported_around_an_identifier :
    let calm : Properties := .ofList [("mood", [.str "calm", .str "calm"])] compare
    let silent : Properties := .ofList [("mood", [])] compare
    let operations : List LibraryOperation :=
      [.defineProperty "mood" .str true none none,
        .importRecords [{ id := 20, path := "/a.mkv" }, { id := 5, path := "/b.mkv" }],
        .removeRecord 20]
    let batch : List Record :=
      [{ path := "/c.mkv", properties := calm }, { id := 30, path := "/d.mkv" },
        { path := "/e.mkv", properties := silent }]
    ∃ l', importRecords batch (afterAll operations) = .ok [31, 30, 32] l' ∧
      Imports batch [31, 30, 32] (afterAll operations) l' ∧
      EverStored operations 20 ∧ (20 : RecordId) < 31 ∧
      l'.store.get? 5 = some { id := 5, path := "/b.mkv" } := by
  intro calm silent operations batch
  have htold : (Checked.answer? (importRecords batch (afterAll operations))).map (·.1) =
      some [31, 30, 32] := by decide +kernel
  obtain ⟨⟨_, l'⟩, hanswer, rfl⟩ := Option.map_eq_some_iff.mp htold
  have hrun := Checked.eq_ok_of_answer? hanswer
  obtain ⟨himports, habove⟩ := imported_records_are_stored operations hrun
  have hstored : EverStored operations 20 :=
    ⟨operations.take 2, List.take_prefix 2 operations, by decide +kernel⟩
  exact ⟨l', hrun, himports, hstored,
    habove ({ path := "/c.mkv", properties := calm }, 31) List.mem_cons_self rfl 20 hstored,
    himports.kept 5 _ (by decide +kernel)⟩

end Library

end MediaLibrary
