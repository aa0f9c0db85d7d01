/-
Imports that are refused.

A batch of records is checked as a whole before its first record is stored, so that a batch
with a record that the checks refuse leaves the library as it was.  The checks look at the
identifiers that the records bring and at their values.  Two reasons for which the store
refuses a record are not among them: a record without a path, and an identifier that was to
be assigned when none is left.  A batch that meets one of them after its first record has been
stored stops halfway, and what was stored stays.

`StopsHalfway` says beforehand which batches these are.  All other imports that are refused
leave no trace.

A batch that is stored is answered with identifiers in its own order, which is not the one in
which its records were stored.  Records are paired with their identifiers, so that the pairs of
the one order can be told from those of the other.
-/
import MediaLibrary.Proofs.Library.Sound
import MediaLibrary.Proofs.Store.Placed

namespace MediaLibrary

/-- Records that bring an identifier are stored first. -/
def storingOrder (records : List Record) : List Record :=
  records.filter (·.id ≠ 0) ++ records.filter (·.id = 0)

theorem mem_of_mem_storingOrder {records : List Record} {r : Record}
    (h : r ∈ storingOrder records) : r ∈ records := by
  rcases List.mem_append.mp h with h | h
  · exact (List.mem_filter.mp h).1
  · exact (List.mem_filter.mp h).1

/-! ### Identifiers in the order of the batch -/

theorem length_interleaveIds (records : List Record) :
    ∀ assigned : List RecordId, (interleaveIds records assigned).length = records.length := by
  induction records with
  | nil => exact fun _ => rfl
  | cons r rest ih =>
      intro assigned
      unfold interleaveIds
      split <;> rw [List.length_cons, List.length_cons, ih]

/-- Records that bring an identifier stand beside it. -/
theorem filter_own_zip_interleaveIds (records : List Record) : ∀ assigned : List RecordId,
    (records.zip (interleaveIds records assigned)).filter (·.1.id ≠ 0) =
      (records.filter (·.id ≠ 0)).map fun r => (r, r.id) := by
  induction records with
  | nil => exact fun _ => rfl
  | cons r rest ih =>
      intro assigned
      unfold interleaveIds
      by_cases hid : r.id = 0
      · rw [if_neg (by simpa using hid), List.zip_cons_cons,
          List.filter_cons_of_neg (by simp [hid]), List.filter_cons_of_neg (by simp [hid]), ih]
      · rw [if_pos hid, List.zip_cons_cons, List.filter_cons_of_pos (by simp [hid]),
          List.filter_cons_of_pos (by simp [hid]), List.map_cons, ih]

/-- The others stand beside those that were assigned, in the order of these. -/
theorem filter_assigned_zip_interleaveIds (records : List Record) : ∀ assigned : List RecordId,
    assigned.length = (records.filter (·.id = 0)).length →
    (records.zip (interleaveIds records assigned)).filter (·.1.id = 0) =
      (records.filter (·.id = 0)).zip assigned := by
  induction records with
  | nil => exact fun _ _ => rfl
  | cons r rest ih =>
      intro assigned hlength
      unfold interleaveIds
      by_cases hid : r.id = 0
      · rw [List.filter_cons_of_pos (by simp [hid])] at hlength ⊢
        cases assigned with
        | nil => cases hlength
        | cons first others =>
            rw [if_neg (by simpa using hid), List.zip_cons_cons,
              List.filter_cons_of_pos (by simp [hid]), List.zip_cons_cons, List.headD_cons,
              List.tail_cons, ih others (Nat.succ.inj hlength)]
      · rw [List.filter_cons_of_neg (by simp [hid])] at hlength ⊢
        rw [if_pos hid, List.zip_cons_cons, List.filter_cons_of_neg (by simp [hid]),
          ih assigned hlength]

/-- Beside each item stands what is made of it. -/
private theorem zip_eq_map {α β : Type} {f : α → β} {xs : List α} {ys : List β}
    (hlength : ys.length = xs.length) (hbeside : ∀ p ∈ xs.zip ys, p.2 = f p.1) :
    xs.zip ys = xs.map fun a => (a, f a) := by
  have hself : xs.zip ys = (xs.zip ys).map fun p => (p.1, f p.1) :=
    (List.map_id _).symm.trans (List.map_congr_left fun p hp => Prod.ext rfl (hbeside p hp))
  have hfst : (xs.zip ys).map Prod.fst = xs := List.map_fst_zip (Nat.le_of_eq hlength.symm)
  calc xs.zip ys = (xs.zip ys).map fun p => (p.1, f p.1) := hself
    _ = ((xs.zip ys).map Prod.fst).map fun a => (a, f a) := by rw [List.map_map]; rfl
    _ = xs.map fun a => (a, f a) := by rw [hfst]

/-- The records beside their identifiers, in the order in which they are stored. -/
theorem map_fst_storingOrder {records : List Record} {ids : List RecordId}
    (hlength : ids.length = records.length) :
    ((records.zip ids).filter (·.1.id ≠ 0) ++ (records.zip ids).filter (·.1.id = 0)).map Prod.fst =
      storingOrder records := by
  have hfst : (records.zip ids).map Prod.fst = records :=
    List.map_fst_zip (Nat.le_of_eq hlength.symm)
  have hfilter : ∀ which : Record → Bool,
      ((records.zip ids).filter (which ·.1)).map Prod.fst = records.filter which := by
    intro which
    rw [← congrArg (List.filter which) hfst, List.filter_map]
    rfl
  rw [List.map_append, storingOrder]
  exact congrArg₂ (· ++ ·) (hfilter fun r => r.id ≠ 0) (hfilter fun r => r.id = 0)

namespace LibraryM

/-! ### Storing a batch -/

/-- Only the store changes while records are stored, and the answers are the identifiers under
which they are. -/
theorem ensures_mapM_storeRecord (records : List Record) :
    ∀ l : Library, Ensures (records.mapM storeRecord) l
      (fun ids l' => ids.length = records.length ∧
        ∃ store, l.store.Places (records.zip ids) store ∧ l' = { l with store })
      (fun l' => ∃ store, l.store.Stops records store ∧ l' = { l with store }) := by
  induction records with
  | nil => exact fun l => ⟨rfl, l.store, .nil l.store, rfl⟩
  | cons r rest ih =>
      intro l
      rw [List.mapM_cons]
      refine ensures_bind.mpr (ensures_storeRecord (fun id store h => ?_) fun e h => ?_)
      · refine ensures_bind.mpr ((ih { l with store }).imp ?_ ?_)
        · rintro ids _ ⟨hlength, last, hrest, rfl⟩
          exact ⟨congrArg Nat.succ hlength, last, .cons h hrest, rfl⟩
        · rintro _ ⟨last, hrest, rfl⟩
          exact ⟨last, (Store.Stores.cons h (.nil store)).stops hrest, rfl⟩
      · exact ⟨l.store, ⟨[], r, rest, e, rfl, .nil l.store, h⟩, rfl⟩

end LibraryM

namespace Library

variable {l : Library} {records checked : List Record}

/-- The batch passes the checks, and then its records are as the catalog admits them. -/
structure Passes (l : Library) (records checked : List Record) : Prop where
  ids : l.idProblem? [] ((records.map (·.id)).filter (· ≠ 0)) = none
  values : records.mapM l.catalog.validateRecord = .ok checked

/-- The batch passes the checks, and the store takes its first record but not all of them. -/
def StopsHalfway (l : Library) (records : List Record) : Prop :=
  ∃ checked, l.Passes records checked ∧ l.store.StopsHalfway (storingOrder checked)

open LibraryM

/-- **An import stores the records that pass the checks**, first those that bring an identifier,
and it is refused by the checks or stops at one of the records. -/
theorem ensures_import (l : Library) (records : List Record) :
    Ensures (importRecords records) l
      (fun ids l' => ∃ checked store, l.Passes records checked ∧ ids.length = checked.length ∧
        l.store.Places ((checked.zip ids).filter (·.1.id ≠ 0) ++
          (checked.zip ids).filter (·.1.id = 0)) store ∧
        l' = { l with store, parameters := l.parameters.forceUpdate })
      (fun l' => ((∀ checked, ¬l.Passes records checked) ∧ l' = l) ∨
        ∃ checked store, l.Passes records checked ∧
          l.store.Stops (storingOrder checked) store ∧ l' = { l with store }) := by
  unfold importRecords
  refine ensures_bind.mpr (ensures_get.mpr ?_)
  dsimp only
  split
  · rename_i problem hproblem
    refine Or.inl ⟨fun checked hpasses => ?_, rfl⟩
    cases hproblem.symm.trans hpasses.ids
  · rename_i hids
    refine ensures_bind.mpr (ensures_check (fun checked hchecked => ?_) fun e he => ?_)
    · have hpasses : l.Passes records checked :=
        ⟨Option.eq_none_iff_forall_ne_some.mpr hids, hchecked⟩
      refine ensures_bind.mpr ((ensures_mapM_storeRecord _ l).imp ?_ ?_)
      · rintro own _ ⟨hownLength, between, hown, rfl⟩
        refine ensures_bind.mpr ((ensures_mapM_storeRecord _ _).imp ?_ ?_)
        · rintro assigned _ ⟨hlength, store, hassigned, rfl⟩
          refine ensures_bind.mpr (ensures_forceUpdate.mpr ⟨checked, store, hpasses,
            length_interleaveIds checked assigned, ?_, rfl⟩)
          have hbeside : (checked.filter (·.id ≠ 0)).zip own =
              (checked.filter (·.id ≠ 0)).map fun r => (r, r.id) :=
            zip_eq_map hownLength fun p hp => hown.own p hp (by
              simpa using (List.mem_filter.mp (List.of_mem_zip hp).1).2)
          rw [filter_own_zip_interleaveIds, ← hbeside,
            filter_assigned_zip_interleaveIds _ _ hlength]
          exact hown.append hassigned
        · rintro _ ⟨store, hstops, rfl⟩
          have hstores := hown.stores
          rw [List.map_fst_zip (Nat.le_of_eq hownLength.symm)] at hstores
          exact Or.inr ⟨checked, store, hpasses, hstores.stops hstops, rfl⟩
      · rintro _ ⟨store, hstops, rfl⟩
        exact Or.inr ⟨checked, store, hpasses, hstops.append _, rfl⟩
    · refine Or.inl ⟨fun checked hpasses => ?_, rfl⟩
      cases he.symm.trans hpasses.values

/-! ### Identifiers that are not in use -/

/-- Identifiers that pass the check are not in use, and none of them is the highest of all. -/
theorem of_idProblem?_eq_none {ids : List RecordId} :
    ∀ {seen : List RecordId}, l.idProblem? seen ids = none →
      ∀ id ∈ ids, l.store.get? id = none ∧ id.toNat + 1 ≠ UInt64.size := by
  induction ids with
  | nil => simp
  | cons id rest ih =>
      intro seen h
      unfold idProblem? at h
      split at h
      · cases h
      · rename_i hlast
        split at h
        · cases h
        · split at h
          · cases h
          · rename_i hfree
            refine List.forall_mem_cons.mpr ⟨⟨?_, hlast⟩, ih h⟩
            rw [Store.contains, Std.ExtTreeMap.contains_eq_isSome_getElem?] at hfree
            exact Option.not_isSome_iff_eq_none.mp hfree

/-- A record that passed the checks keeps its identifier and its path. -/
theorem Passes.exists_of_mem (hpasses : l.Passes records checked) {r : Record} (hr : r ∈ checked) :
    ∃ q ∈ records, r.id = q.id ∧ r.path = q.path := by
  obtain ⟨q, hq, hvalidate⟩ := Checked.exists_of_mem_mapM records hpasses.values hr
  exact ⟨q, hq, (Catalog.admits_of_validateRecord hvalidate).2⟩

/-- If it brings an identifier, that one is free. -/
theorem Passes.of_id_ne (hpasses : l.Passes records checked) {r : Record} (hr : r ∈ checked)
    (hid : r.id ≠ 0) : l.store.get? r.id = none ∧ r.id.toNat + 1 ≠ UInt64.size := by
  obtain ⟨q, hq, hsame, _⟩ := hpasses.exists_of_mem hr
  refine of_idProblem?_eq_none hpasses.ids r.id (List.mem_filter.mpr ⟨?_, by simpa using hid⟩)
  exact hsame ▸ List.mem_map_of_mem hq

/-- A record that passed the checks does not take the place of another one. -/
theorem Sound.get?_givenId (h : l.Sound) (hpasses : l.Passes records checked) {r : Record}
    (hr : r ∈ checked) : l.store.get? (l.store.givenId r) = none := by
  unfold Store.givenId
  split
  · -- Identifiers in use were given away before the next one.
    cases hnext : l.store.get? l.store.nextId with
    | none => rfl
    | some q => exact absurd (h.store.given _ q hnext).2 (UInt64.lt_irrefl _)
  · rename_i hid
    exact (hpasses.of_id_ne hr hid).1

/-! ### What a refused import leaves -/

theorem Passes.unique {checked' : List Record} (h : l.Passes records checked)
    (h' : l.Passes records checked') : checked = checked' :=
  Except.ok.inj (h.values.symm.trans h'.values)

/-- A batch that stops halfway is refused. -/
theorem StopsHalfway.exists_refused (h : l.StopsHalfway records) :
    ∃ e l', importRecords records l = .error e l' := by
  cases hrun : importRecords records l with
  | error e l' => exact ⟨e, l', rfl⟩
  | ok ids l' =>
      obtain ⟨checked, store, hpasses, hlength, hplaces, _⟩ := (ensures_import l records).of_ok hrun
      obtain ⟨checked', hpasses', hhalfway⟩ := h
      cases hpasses.unique hpasses'
      exact absurd (map_fst_storingOrder hlength ▸ hplaces.stores) hhalfway.not_stores

/-- A refused import leaves a record that was not there before if it stops halfway, and
otherwise it leaves no trace. -/
theorem Sound.leaves_of_refused (h : l.Sound) {e : LibraryError} {l' : Library}
    (hrefused : importRecords records l = .error e l') :
    (¬l.StopsHalfway records ∧ l' = l) ∨
      (l.StopsHalfway records ∧ ∃ store id, l' = { l with store } ∧
        l.store.get? id = none ∧ store.get? id ≠ none) := by
  rcases (ensures_import l records).of_error hrefused with
    ⟨hfails, rfl⟩ | ⟨checked, store, hpasses, hstops, rfl⟩
  · exact Or.inl ⟨fun ⟨checked, hpasses, _⟩ => hfails checked hpasses, rfl⟩
  · by_cases hhalfway : l.store.StopsHalfway (storingOrder checked)
    · refine Or.inr ⟨⟨checked, hpasses, hhalfway⟩, store, ?_⟩
      obtain ⟨first, hfirst, hstored⟩ := hhalfway.exists_stored hstops
      exact ⟨_, rfl, h.get?_givenId hpasses (mem_of_mem_storingOrder hfirst), hstored⟩
    · refine Or.inl ⟨fun ⟨checked', hpasses', hhalfway'⟩ => ?_, ?_⟩
      · cases hpasses.unique hpasses'
        exact hhalfway hhalfway'
      · rw [hstops.cases.resolve_right hhalfway]

/-- **An import that is refused leaves no trace unless it stops halfway.**  After any run, a
refused import leaves the definitions, the layers and what is remembered of views as they were.
It leaves the whole library as it was, and with it every later answer, if and only if the batch
does not stop halfway.  A batch that stops halfway is refused, and leaves a record under an
identifier that was not in use. -/
theorem refused_import_leaves_no_trace_iff (operations : List LibraryOperation)
    (records : List Record) :
    let l := afterAll operations
    (∀ e l', importRecords records l = .error e l' →
        l'.catalog = l.catalog ∧ l'.parameters = l.parameters ∧
          (l' = l ↔ ¬l.StopsHalfway records)) ∧
      (l.StopsHalfway records →
        ∃ e l' id, importRecords records l = .error e l' ∧
          l.store.get? id = none ∧ l'.store.get? id ≠ none) := by
  intro l
  have h : l.Sound := sound_afterAll operations
  refine ⟨fun e l' hrefused => ?_, fun hhalfway => ?_⟩
  · rcases h.leaves_of_refused hrefused with
      ⟨hwhole, rfl⟩ | ⟨hhalfway, store, id, rfl, hfree, hheld⟩
    · exact ⟨rfl, rfl, fun _ => hwhole, fun _ => rfl⟩
    · refine ⟨rfl, rfl, fun hsame => ?_, fun hwhole => absurd hhalfway hwhole⟩
      have hstore : store = l.store := congrArg Library.store hsame
      rw [hstore] at hheld
      exact absurd hfree hheld
  · obtain ⟨e, l', hrefused⟩ := hhalfway.exists_refused
    rcases h.leaves_of_refused hrefused with ⟨hwhole, _⟩ | ⟨_, store, id, rfl, hfree, hheld⟩
    · exact absurd hhalfway hwhole
    · exact ⟨e, _, id, hrefused, hfree, hheld⟩

/-- Two records that bring one identifier are refused before the record without one is
stored. -/
theorem repeated_identifier_leaves_no_trace :
    let operations : List LibraryOperation := [.importRecords [{ path := "/a.mkv" }]]
    let records : List Record :=
      [{ path := "/b.mkv" }, { id := 7, path := "/c.mkv" }, { id := 7, path := "/d.mkv" }]
    importRecords records (afterAll operations) =
      .error (.store (.idRepeated 7)) (afterAll operations) := by
  intro operations records
  have hproblem : (afterAll operations).idProblem? [] ((records.map (·.id)).filter (· ≠ 0)) =
      some (.idRepeated 7) := by decide +kernel
  have htold : (Checked.refusal? (importRecords records (afterAll operations))).map (·.1) =
      some (.store (.idRepeated 7)) := by decide +kernel
  obtain ⟨⟨_, l'⟩, hrefusal, rfl⟩ := Option.map_eq_some_iff.mp htold
  have hrefused := Checked.eq_error_of_refusal? hrefusal
  have hwhole : ¬(afterAll operations).StopsHalfway records := by
    rintro ⟨checked, hpasses, _⟩
    cases hproblem.symm.trans hpasses.ids
  obtain ⟨_, _, hkeeps⟩ := (refused_import_leaves_no_trace_iff operations records).1 _ l' hrefused
  rw [hrefused, hkeeps.mpr hwhole]

/-- A record without a path is refused after the record before it has been stored, which is
found from then on. -/
theorem import_without_path_stops_halfway :
    let records : List Record := [{ path := "/a/one.mkv" }, { path := "" }]
    ∃ l', importRecords records empty = .error (.store .emptyPath) l' ∧
      empty.store.get? 1 = none ∧ l'.store.get? 1 = some { id := 1, path := "/a/one.mkv" } ∧
      empty.store.withTerm "one" = ∅ ∧ 1 ∈ l'.store.withTerm "one" := by
  intro records
  let told (refusal : LibraryError × Library) : LibraryError × Option Record × Bool :=
    (refusal.1, refusal.2.store.get? 1, (refusal.2.store.withTerm "one").contains 1)
  have htold : (Checked.refusal? (importRecords records empty)).map told =
      some (.store .emptyPath, some { id := 1, path := "/a/one.mkv" }, true) := by decide +kernel
  obtain ⟨⟨e, l'⟩, hrefusal, htold⟩ := Option.map_eq_some_iff.mp htold
  obtain ⟨rfl, hrest⟩ := Prod.mk.inj htold
  obtain ⟨hget, hterm⟩ := Prod.mk.inj hrest
  exact ⟨l', Checked.eq_error_of_refusal? hrefusal, by decide +kernel, hget, by decide +kernel,
    Std.ExtTreeSet.contains_iff_mem.mp hterm⟩

end Library

end MediaLibrary
