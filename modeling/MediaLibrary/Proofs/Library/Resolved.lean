/-
Moves that are resolved.

Resolving a move changes two records at once: the missing one takes the path and the state of
the found one, which is removed.  Nothing else of the store changes, and its indices follow both
records.

The index of moved files is made anew afterwards.  The record is not missing any more.  Every
other missing record of the same fingerprint listed the found record, and now lists in its place
the one that was missing, which may stand elsewhere in the order of the identifiers.
-/
import Mathlib
import MediaLibrary.Proofs.Library.Moves
import MediaLibrary.Proofs.Moves.Candidates

namespace MediaLibrary

/-- What resolving a move does to a store: the missing record has the path and the state of the
found one, which is gone, and all else is as it was. -/
structure Store.Moved (s s' : Store) (missing found : RecordId) : Prop where
  moved : ∃ record destination, s.get? missing = some record ∧ s.get? found = some destination ∧
    s'.get? missing = some { record with path := destination.path, flags := destination.flags }
  gone : s'.get? found = none
  others : ∀ id, id ≠ missing → id ≠ found → s'.get? id = s.get? id
  definitions : s'.definitions = s.definitions
  nextId : s'.nextId = s.nextId
  /-- Both indices follow the records. -/
  answers : s'.Answers s'.plain

namespace Library

open LibraryM

variable {l l' : Library} {missing found : RecordId}

/-- The index that is told of is that of the records. -/
theorem KnowsMoves.moveCandidates_eq (h : l.KnowsMoves) (id : RecordId) :
    moveCandidates id l =
      .ok ((MoveIndex.ofRecords l.store.toList).candidates id) l.withKnownMoves := by
  rw [← h]
  rfl

/-- What a library is after a move, with the records that the move is about. -/
structure MovesTo (l l' : Library) (record destination : Record) : Prop where
  sound : l'.Sound
  recordBefore : l.store.get? record.id = some record
  destinationBefore : l.store.get? destination.id = some destination
  mayBecome : record.MayBecome destination
  get? : ∀ id, l'.store.get? id =
    if record.id = id then some (record.movedTo destination)
    else if destination.id = id then none else l.store.get? id
  definitions : l'.store.definitions = l.store.definitions
  nextId : l'.store.nextId = l.store.nextId
  catalog : l'.catalog = l.catalog
  parameters : l'.parameters = l.parameters.forceUpdate

/-- Different records of a library have different identifiers. -/
theorem Sound.distinct (h : l.Sound) : l.store.toList.Pairwise (·.id ≠ ·.id) :=
  h.store.toList_ascending.imp UInt64.ne_of_lt

/-- **What resolving a move leaves.** -/
theorem Sound.moves (h : l.Sound) (hknows : l.KnowsMoves)
    (hrun : applyMove missing found l = .ok () l') :
    ∃ record destination, record.id = missing ∧ destination.id = found ∧
      l.MovesTo l' record destination := by
  have hsound : l'.Sound :=
    after_of_ok (.applyMove missing found) hrun ▸ h.after (.applyMove missing found)
  have hensures : Ensures (applyMove missing found) l
      (fun _ l' => ∃ record destination,
        (∃ d ∈ l.knownMoves.candidates missing, d.recordId = found) ∧
        l.store.get? missing = some record ∧ l.store.get? found = some destination ∧
        l' = { l with
          store := (l.store.remove found).2.put (record.movedTo destination)
          parameters := l.parameters.forceUpdate })
      fun _ => True := by
    refine ensures_applyMove h.store trivial ?_
    intro record destination id store hlisted hrecord hdestination hs
    have hstored := h.store.insert_moved hrecord hdestination
    obtain ⟨_, rfl⟩ := Prod.mk.inj (Except.ok.inj (hstored.symm.trans hs))
    exact ⟨record, destination, hlisted, hrecord, hdestination, rfl⟩
  obtain ⟨record, destination, ⟨d, hd, hdid⟩, hrecord, hdestination, rfl⟩ :=
    hensures.of_ok hrun
  have hrecordId : record.id = missing := h.store.keyed missing record hrecord
  have hdestinationId : destination.id = found := h.store.keyed found destination hdestination
  subst hrecordId hdestinationId
  refine ⟨record, destination, rfl, rfl, hsound, hrecord, hdestination, ?_, ?_, ?_, ?_, rfl, rfl⟩
  · rw [hknows] at hd
    obtain ⟨m, hm, q, hq, hmid, hmay, rfl⟩ := (MoveIndex.mem_candidates h.distinct).mp hd
    obtain rfl := eq_of_id_eq h.distinct hm (h.store.mem_toList.mpr hrecord) hmid
    obtain rfl := eq_of_id_eq h.distinct hq (h.store.mem_toList.mpr hdestination) hdid
    exact hmay
  · intro id
    show (((l.store.remove destination.id).2.put (record.movedTo destination)).records)[id]? = _
    rw [Store.records_put, Store.records_remove, OrderedMap.getElem?_insert,
      OrderedMap.getElem?_erase]
    rfl
  · rw [Store.definitions_put, Store.definitions_remove]
  · rw [Store.nextId_put, Store.nextId_remove]

namespace MovesTo

variable {record destination : Record}

theorem id_ne (h : l.MovesTo l' record destination) : record.id ≠ destination.id := by
  intro hid
  have hsame := h.recordBefore
  rw [hid, h.destinationBefore] at hsame
  cases hsame
  have hfound := h.mayBecome.destinationFound
  rw [h.mayBecome.missing] at hfound
  cases hfound

theorem resolved (h : l.MovesTo l' record destination) (hl : l.Sound) :
    Resolved l.store.toList l'.store.toList record destination where
  distinct := hl.distinct
  distinct' := h.sound.distinct
  record_mem := hl.store.mem_toList.mpr h.recordBefore
  destination_mem := hl.store.mem_toList.mpr h.destinationBefore
  mayBecome := h.mayBecome
  mem r := by
    rw [h.sound.store.mem_toList, hl.store.mem_toList]
    show l'.store.get? r.id = some r ↔ _
    rw [h.get?]
    by_cases hrecord : record.id = r.id
    · rw [if_pos hrecord]
      constructor
      · rintro ⟨⟩
        exact .inl rfl
      · rintro (rfl | ⟨_, hne, _⟩)
        · rfl
        · exact absurd hrecord.symm hne
    · rw [if_neg hrecord]
      have hother : r ≠ record.movedTo destination := by
        rintro rfl
        exact hrecord rfl
      by_cases hdestination : destination.id = r.id
      · simp [hdestination, hother]
      · rw [if_neg hdestination]
        constructor
        · exact fun hr => .inr ⟨hr, Ne.symm hrecord, Ne.symm hdestination⟩
        · rintro (rfl | ⟨hr, _, _⟩)
          · exact absurd rfl hother
          · exact hr

theorem moved (h : l.MovesTo l' record destination) :
    l.store.Moved l'.store record.id destination.id where
  moved := by
    refine ⟨record, destination, h.recordBefore, h.destinationBefore, ?_⟩
    rw [h.get?, if_pos rfl]
    rfl
  gone := by rw [h.get?, if_neg h.id_ne, if_pos rfl]
  others id hmissing hfound := by
    rw [h.get?, if_neg (Ne.symm hmissing), if_neg (Ne.symm hfound)]
  definitions := h.definitions
  nextId := h.nextId
  answers := h.sound.store.answers

/-- The index of moved files is made anew. -/
theorem knowsMoves (h : l.MovesTo l' record destination) : l'.KnowsMoves := by
  refine knowsMoves_of_forgotten ?_
  rw [h.parameters]
  rfl

end MovesTo

/-- **What resolving a move changes.**  Take any state that a run reaches, refused operations
included, in which the index of moved files is that of the records, and a move that is not
refused in it.  The record that was missing has the path and the state of the found one, which
is gone; all else of the store is as it was, and so are the definitions and the layers.  The
record has no destinations any more.  Every other record lists the destinations that it listed,
with the record in the place of the found one and in the order of the identifiers, and what it
lists is as it was where the found record was not listed. -/
theorem applied_move_changes_two_records (operations : List LibraryOperation)
    (hknows : (afterAll operations).KnowsMoves)
    (hrun : applyMove missing found (afterAll operations) = .ok () l') :
    (afterAll operations).store.Moved l'.store missing found ∧
      l'.catalog = (afterAll operations).catalog ∧ l'.layers = (afterAll operations).layers ∧
      (∃ k, moveCandidates missing l' = .ok [] k) ∧
      ∀ id, id ≠ missing → ∃ before after k k',
        moveCandidates id (afterAll operations) = .ok before k ∧
        moveCandidates id l' = .ok after k' ∧
        after.Perm (before.map (·.follow missing found)) ∧
        after.Pairwise (·.recordId < ·.recordId) ∧
        ((∀ d ∈ before, d.recordId ≠ found) → after = before) := by
  have hl := sound_afterAll operations
  generalize afterAll operations = l at hknows hrun hl
  obtain ⟨record, destination, rfl, rfl, hmoves⟩ := hl.moves hknows hrun
  have hresolved := hmoves.resolved hl
  have hanswers := hmoves.knowsMoves.moveCandidates_eq
  have hlayers : l'.layers = l.layers := by
    unfold layers
    rw [hmoves.parameters]
    rfl
  refine ⟨hmoves.moved, hmoves.catalog, hlayers, ?_, ?_⟩
  · rw [hanswers, hresolved.candidates_missing]
    exact ⟨_, rfl⟩
  · intro id hid
    exact ⟨_, _, _, _, hknows.moveCandidates_eq id, hanswers id, hresolved.candidates_perm hid,
      MoveIndex.candidates_ascending hresolved.distinct' id, hresolved.candidates_eq hid⟩

/-- Two files are missing and two were found.  The second missing one turns out to be the first
found one, and then stands behind the other in what the first missing one lists. -/
theorem moved_record_is_listed_in_order :
    let records : List Record :=
      [{ id := 1, path := "/new/a.mkv", size := 9 },
        { id := 2, path := "/old/a.mkv", size := 9, flags := { found := false } },
        { id := 3, path := "/new/b.mkv", size := 9 },
        { id := 4, path := "/old/b.mkv", size := 9, flags := { found := false } }]
    let operations : List LibraryOperation := [.importRecords records]
    ∃ l' k, applyMove 4 1 (afterAll operations) = .ok () l' ∧
      moveCandidates 2 l' = .ok [⟨3, "/new/b.mkv"⟩, ⟨4, "/new/a.mkv"⟩] k := by
  intro records operations
  have hlisted : (MoveIndex.ofRecords (afterAll operations).store.toList).candidates 2 =
      [⟨1, "/new/a.mkv"⟩, ⟨3, "/new/b.mkv"⟩] := by
    have hrecords : (afterAll operations).store.toList = records := by decide +kernel
    rw [hrecords]
    cbv
  have hsome : (Checked.answer? (applyMove 4 1 (afterAll operations))).isSome := by cbv
  obtain ⟨⟨_, l'⟩, hanswer⟩ := Option.isSome_iff_exists.mp hsome
  have hrun := Checked.eq_ok_of_answer? hanswer
  have hknows : (afterAll operations).KnowsMoves := knowsMoves_of_forgotten (by decide +kernel)
  obtain ⟨_, _, _, _, hlists⟩ := applied_move_changes_two_records operations hknows hrun
  generalize afterAll operations = l at *
  obtain ⟨before, after, k, k', hbefore, hafter, hperm, hascending, _⟩ := hlists 2 (by decide)
  rw [hknows.moveCandidates_eq, hlisted] at hbefore
  cases hbefore
  have hsorted : after = [⟨3, "/new/b.mkv"⟩, ⟨4, "/new/a.mkv"⟩] :=
    OrderedMap.eq_of_mem_iff (fun a b hab hba => UInt64.lt_asymm hab hba) hascending (by decide)
      fun d => by rw [hperm.mem_iff]; simp [MoveDestination.follow, or_comm]
  exact ⟨l', k', hrun, hsorted ▸ hafter⟩

end Library

end MediaLibrary
