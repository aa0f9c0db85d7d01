/-
Every operation on a store keeps it sound.

Operations write records in three ways.  A single record is put in or taken out, which
`Sound.put` and `Sound.remove` cover.  Some records are edited, and an edit leaves their
identifiers and paths alone, so that each of them may be put back.  And a store is opened
again from what is kept of it; then the records are put one after the other into a store
without any, and since the indices of a sound store are a function of its records the
store that comes out is the one that was closed.
-/
import MediaLibrary.Proofs.Store.Lookups

namespace MediaLibrary

open Std

/-- A change of records that leaves their identifiers and paths alone. -/
structure KeepsFile (edit : Record → Record) : Prop where
  id : ∀ r, (edit r).id = r.id
  path : ∀ r, (edit r).path = r.path

theorem keepsFile_setValues (property : String) (values : List Value) :
    KeepsFile (·.setValues property values) :=
  ⟨fun _ => rfl, fun _ => rfl⟩

theorem keepsFile_renameIn (old new : String) : KeepsFile (Store.renameIn old new) :=
  ⟨fun _ => rfl, fun _ => rfl⟩

namespace Store

variable {s : Store}

/-! ### Editing records -/

section

variable {edit : Record → Record}

theorem nextId_putEdited (records : List Record) :
    ∀ s : Store, (s.putEdited edit records).nextId = s.nextId := by
  induction records with
  | nil => intro s; rfl
  | cons r rest ih =>
      intro s
      show ((s.put (edit r)).putEdited edit rest).nextId = s.nextId
      rw [ih, nextId_put]

theorem definitions_putEdited (records : List Record) :
    ∀ s : Store, (s.putEdited edit records).definitions = s.definitions := by
  induction records with
  | nil => intro s; rfl
  | cons r rest ih =>
      intro s
      show ((s.put (edit r)).putEdited edit rest).definitions = s.definitions
      rw [ih, definitions_put]

theorem Sound.putEdited (hedit : KeepsFile edit) (records : List Record) :
    ∀ {s : Store}, s.Sound →
      (∀ r ∈ records, r.path.isEmpty = false ∧ r.id ≠ 0 ∧ r.id < s.nextId) →
      (s.putEdited edit records).Sound := by
  induction records with
  | nil => intro s h _; exact h
  | cons r rest ih =>
      intro s h hrecords
      obtain ⟨hpath, hid, hlt⟩ := hrecords r (by simp)
      have hput : (s.put (edit r)).Sound :=
        h.put (by rw [hedit.path]; exact hpath) (by rw [hedit.id]; exact hid)
          (by rw [hedit.id]; exact hlt)
      refine ih hput fun q hq => ?_
      rw [nextId_put]
      exact hrecords q (by simp [hq])

/-- The edited records all stand in one map, from which they were taken. -/
private theorem getElem?_putEdited (hedit : KeepsFile edit)
    {kept : ExtTreeMap RecordId Record} (id : RecordId) (records : List Record) :
    ∀ s : Store, (∀ r ∈ records, kept[r.id]? = some r) →
      (s.putEdited edit records).records[id]? =
        if id ∈ records.map (·.id) then kept[id]?.map edit else s.records[id]? := by
  induction records with
  | nil => intro s _; rfl
  | cons r rest ih =>
      intro s hkept
      show ((s.put (edit r)).putEdited edit rest).records[id]? = _
      rw [ih _ fun q hq => hkept q (by simp [hq]), records_put, OrderedMap.getElem?_insert,
        hedit.id]
      by_cases hrest : id ∈ rest.map (·.id)
      · rw [if_pos hrest, if_pos (by rw [List.map_cons]; exact List.mem_cons_of_mem _ hrest)]
      · rw [if_neg hrest]
        by_cases hid : r.id = id
        · subst hid
          rw [if_pos rfl, if_pos (by simp), hkept r (by simp)]
          rfl
        · have hmem : id ∉ (r :: rest).map (·.id) := by
            rw [List.map_cons, List.mem_cons, not_or]
            exact ⟨fun hc => hid hc.symm, hrest⟩
          rw [if_neg hid, if_neg hmem]

/-- **Editing the records that meet a condition.** -/
theorem Sound.putEdited_filter (h : s.Sound) (hedit : KeepsFile edit) (which : Record → Bool) :
    (s.putEdited edit (s.toList.filter which)).Sound ∧
      (s.putEdited edit (s.toList.filter which)).plain = s.plain.edit which edit := by
  have hkept : ∀ r ∈ s.toList.filter which, s.records[r.id]? = some r := fun r hr =>
    h.mem_toList.mp (List.mem_filter.mp hr).1
  refine ⟨Sound.putEdited hedit _ h fun r hr => (h.kept (hkept r hr)).2, ?_⟩
  have hrecords : (s.putEdited edit (s.toList.filter which)).records =
      s.records.map fun _ r => if which r then edit r else r := by
    refine ExtTreeMap.ext_getElem? fun id => ?_
    rw [getElem?_putEdited hedit id _ s hkept, ExtTreeMap.getElem?_map]
    cases hr : s.records[id]? with
    | none => simp
    | some r =>
        have hid : r.id = id := h.keyed id r hr
        have hmem : id ∈ (s.toList.filter which).map (·.id) ↔ which r = true := by
          rw [show (s.toList.filter which).map (·.id) = s.plain.idsWhere which from rfl,
            h.mem_idsWhere]
          simp [hr]
        by_cases hwhich : which r = true
        · simp [hmem, hwhich]
        · simp [hmem, hwhich]
  simp only [plain, PlainStore.edit, hrecords, nextId_putEdited, definitions_putEdited]

end

/-! ### Records that have to be there -/

theorem get?_of_require {id : RecordId} {r : Record} (h : s.require id = .ok r) :
    s.get? id = some r := by
  unfold require at h
  split at h
  · rename_i hr
    cases h
    exact hr
  · cases h

theorem mapM_require (s : Store) (ids : List RecordId) :
    ids.mapM s.require =
      match ids.find? (!s.records.contains ·) with
      | some id => .error (.recordNotFound id)
      | none => .ok (ids.filterMap s.get?) := by
  induction ids with
  | nil => rfl
  | cons id rest ih =>
      rw [List.mapM_cons, ih, List.find?_cons, List.filterMap_cons]
      unfold require get?
      rw [ExtTreeMap.contains_eq_isSome_getElem?]
      cases hr : s.records[id]? with
      | none => rfl
      | some r =>
          cases rest.find? (!s.records.contains ·) <;> rfl

/-- None of the records that are there is left out. -/
theorem length_recordsOf {ids : IdSet} (hall : ∀ id ∈ ids.toList, s.records.contains id) :
    (s.recordsOf ids).length = ids.size := by
  rw [recordsOf, List.length_filterMap_eq_countP, ← ExtTreeSet.length_toList,
    List.countP_eq_length]
  intro id hid
  have hcontains := hall id hid
  rwa [ExtTreeMap.contains_eq_isSome_getElem?] at hcontains

/-- **All records that hold a property are there**, so they may be required one by one. -/
theorem Sound.require_withProperty (h : s.Sound) (property : String) :
    (s.withProperty property).toList.mapM s.require =
      .ok (s.recordsOf (s.withProperty property)) := by
  have hall : (s.withProperty property).toList.find? (!s.records.contains ·) = none := by
    refine List.find?_eq_none.mpr fun id hid => ?_
    rw [ExtTreeSet.mem_toList, h.withProperty_eq, h.mem_setWhere] at hid
    obtain ⟨r, hr, _⟩ := hid
    rw [ExtTreeMap.contains_eq_isSome_getElem?, hr]
    simp
  rw [mapM_require, hall]
  rfl

/-! ### Opening a store again -/

/-- The indices of a sound store are a function of its records. -/
theorem Sound.eq_of_plain_eq {s' : Store} (h : s.Sound) (h' : s'.Sound) (heq : s.plain = s'.plain) :
    s = s' := by
  obtain ⟨hrecords, hdefinitions, hnextId⟩ :
      s.records = s'.records ∧ s.definitions = s'.definitions ∧ s.nextId = s'.nextId := by
    simpa [plain] using heq
  have htags : s.tags = s'.tags := h.tags.unique (hrecords ▸ h'.tags)
  have hterms : s.terms = s'.terms := h.terms.unique (hrecords ▸ h'.terms)
  cases s
  cases s'
  simp_all

private theorem foldl_saveDefinition (definitions : List Definition) :
    ∀ s : Store, definitions.foldl saveDefinition s =
      { s with
        definitions := definitions.foldl (fun all d => all.insert d.name d) s.definitions } := by
  induction definitions with
  | nil => intro s; rfl
  | cons d rest ih =>
      intro s
      rw [List.foldl_cons, ih]
      rfl

private theorem foldl_put_eq_putEdited (records : List Record) (s : Store) :
    records.foldl put s = s.putEdited id records := rfl

private theorem records_foldl_put (records : List Record) :
    ∀ s : Store, (records.foldl put s).records =
      records.foldl (fun all r => all.insert r.id r) s.records := by
  induction records with
  | nil => intro s; rfl
  | cons r rest ih =>
      intro s
      rw [List.foldl_cons, ih, records_put, List.foldl_cons]

/-- **Opening a store again gives the store back.** -/
theorem Sound.ofParts_eq (h : s.Sound) : ofParts s.nextId s.loadDefinitions s.toList = s := by
  have hdefinitions : s.loadDefinitions.foldl Store.saveDefinition { nextId := s.nextId } =
      ({ nextId := s.nextId, definitions := s.definitions } : Store) := by
    rw [foldl_saveDefinition]
    congr 1
    exact OrderedMap.foldl_insert_values h.named
  rw [ofParts, hdefinitions]
  refine Sound.eq_of_plain_eq ?_ h ?_
  · rw [foldl_put_eq_putEdited]
    exact Sound.putEdited ⟨fun _ => rfl, fun _ => rfl⟩ _ (sound_bare h.next h.named) fun r hr =>
      (h.kept (h.mem_toList.mp hr)).2
  · rw [plain, records_foldl_put, foldl_put_eq_putEdited, definitions_putEdited, nextId_putEdited,
      plain]
    congr 1
    exact OrderedMap.foldl_insert_values h.keyed

end Store

end MediaLibrary
