/-
The remembered index of moved files.

The index of moved files is kept until it is dropped, and nothing that it was made from is kept
with it.  Every operation that writes records drops it, except one that sets the values of a
property, at which the index does not look.

That leaves an import that is refused halfway, with nothing dropped and some of its records
stored.  Such an import met a record without a path, or ran out of identifiers.  In a run
without either, the index that is remembered is the one that would be made now.
-/
import MediaLibrary.Proofs.Library.Caches
import MediaLibrary.Proofs.Library.Import
import MediaLibrary.Proofs.Moves.Index

namespace MediaLibrary.Library

variable {l l' : Library}

/-- The index of moved files that the library tells of is that of its records. -/
def KnowsMoves (l : Library) : Prop := l.knownMoves = MoveIndex.ofRecords l.store.toList

/-! ### What keeps the index up to date -/

/-- An index that was dropped is made anew. -/
theorem knowsMoves_of_forgotten (h : l.parameters.caches.moves.index = none) : l.KnowsMoves := by
  unfold KnowsMoves knownMoves MoveMemo.indexOf
  rw [h]

/-- The same index is remembered, and the same would be made. -/
theorem KnowsMoves.of_same (h : l.KnowsMoves)
    (hmoves : l'.parameters.caches.moves = l.parameters.caches.moves)
    (hindex : MoveIndex.ofRecords l'.store.toList = MoveIndex.ofRecords l.store.toList) :
    l'.KnowsMoves := by
  unfold KnowsMoves knownMoves MoveMemo.indexOf at *
  rw [hmoves, hindex]
  cases hremembered : l.parameters.caches.moves.index with
  | none => rfl
  | some index =>
      rw [hremembered] at h
      exact h

/-- An operation on the layers keeps the index or drops it. -/
theorem KnowsMoves.of_follows (h : l.KnowsMoves) {parameters : Parameters Caches}
    (hfollows : l.parameters.Follows parameters) : KnowsMoves { l with parameters } := by
  cases hfollows with
  | kept layers hlayers => exact h.of_same rfl rfl
  | dropped layers => exact knowsMoves_of_forgotten rfl

/-- An index that is asked for is remembered as it was told. -/
theorem KnowsMoves.withKnownMoves (h : l.KnowsMoves) : l.withKnownMoves.KnowsMoves := by
  unfold KnowsMoves knownMoves Library.withKnownMoves MoveMemo.indexOf at *
  cases hremembered : l.parameters.caches.moves.index with
  | none => rfl
  | some index =>
      rw [hremembered] at h
      simpa [hremembered] using h

theorem KnowsMoves.of_seen (h : l.KnowsMoves) (hseen : l.Seen l') : l'.KnowsMoves := by
  cases hseen with
  | found group => exact h.of_same rfl rfl
  | made group grouping groups hgrouping hgroups => exact h.of_same rfl rfl

/-- The index does not look at the values of properties. -/
theorem KnowsMoves.of_setValues (h : l.KnowsMoves) (hs : l.Sound) {ids : List RecordId}
    {property : String} {values : List Value} {count : Nat} {store : Store}
    (hset : l.store.setValues ids property values = .ok (count, store)) :
    KnowsMoves { l with store } := by
  obtain ⟨_, which, hplain⟩ := hs.store.of_setValues hset
  have hrecords : store.toList =
      l.store.toList.map fun r => if which r then r.setValues property values else r :=
    (congrArg PlainStore.toList hplain).trans (PlainStore.toList_edit _ _ _)
  refine h.of_same rfl ?_
  show MoveIndex.ofRecords store.toList = _
  rw [hrecords]
  exact MoveIndex.ofRecords_map ((keepsTrace_setValues property values).ite which) _

/-! ### Operations -/

open LibraryM

/-- An import of records with paths that is refused stores nothing, unless it runs out of
identifiers. -/
theorem KnowsMoves.of_refused_import (h : l.KnowsMoves) {records : List Record}
    (hpaths : ∀ r ∈ records, r.path ≠ "") {e : LibraryError}
    (hrefused : importRecords records l = .error e l')
    (hids : l'.store.nextId.toNat + 1 < UInt64.size) : l'.KnowsMoves := by
  rcases (ensures_import l records).of_error hrefused with
    ⟨_, rfl⟩ | ⟨checked, store, hpasses, hstops, rfl⟩
  · exact h
  · -- The records that bring an identifier were checked, so only an assigned one can be refused.
    have hlast : store.nextId.toNat + 1 = UInt64.size := by
      refine hstops.nextId (fun r hr => ?_) fun r hr hid => ?_
      · obtain ⟨q, hq, _, hpath⟩ := hpasses.exists_of_mem (mem_of_mem_storingOrder hr)
        simpa [hpath] using hpaths q hq
      · exact (hpasses.of_id_ne (mem_of_mem_storingOrder hr) hid).2
    exact absurd hlast (Nat.ne_of_lt hids)

/-- **Every operation keeps the index up to date**, be it carried out or refused, as long as no
record comes without a path and identifiers are left. -/
theorem KnowsMoves.after (h : l.KnowsMoves) (hs : l.Sound) {operation : LibraryOperation}
    (hpaths : ∀ records, operation = .importRecords records → ∀ r ∈ records, r.path ≠ "")
    (hids : (l.after operation).store.nextId.toNat + 1 < UInt64.size) :
    (l.after operation).KnowsMoves := by
  have hbecomes := becomes_after hs operation
  generalize l.after operation = l' at hbecomes hids
  cases hbecomes with
  | dropped hforgotten => exact knowsMoves_of_forgotten hforgotten.moves
  | layered hfollows => exact h.of_follows hfollows
  | seen hseen => exact h.of_seen hseen
  | followed path hseen => exact (h.of_seen hseen).of_follows (Parameters.follows_withPath path)
  | described all => exact h.of_same rfl rfl
  | asked => exact h.withKnownMoves
  | tagged property hset =>
      exact (h.of_setValues hs hset).of_follows (Parameters.follows_notifyModified property true)
  | stopped hrefused => exact h.of_refused_import (hpaths _ rfl) hrefused hids

/-- **The index of moved files is never stale.**  In a run in which every imported record has a
path and the highest identifier is never the next one, refused operations included, the library
tells of the index that its records have at that time, whether it was remembered or not. -/
theorem moveIndex_is_that_of_records (operations : List LibraryOperation)
    (hpaths : ∀ records, .importRecords records ∈ operations → ∀ r ∈ records, r.path ≠ "")
    (hids : ∀ earlier, earlier <+: operations →
      (afterAll earlier).store.nextId.toNat + 1 < UInt64.size) :
    ∃ l', moveIndex (afterAll operations) =
      .ok (MoveIndex.ofRecords (afterAll operations).store.toList) l' := by
  have hknows : (afterAll operations).KnowsMoves := by
    refine afterAll_prefix_induction (knowsMoves_of_forgotten rfl) ?_
    intro earlier operation hearlier h
    refine h.after (sound_afterAll earlier) ?_ ?_
    · rintro records rfl
      exact hpaths records (hearlier.subset (by simp))
    · rw [← afterAll_concat]
      exact hids _ hearlier
  have hanswer : moveIndex (afterAll operations) =
      .ok (afterAll operations).knownMoves (afterAll operations).withKnownMoves := rfl
  rw [hknows] at hanswer
  exact ⟨_, hanswer⟩

/-- A file is found again while the index without it is remembered.  Then values are set, and
another import is refused. -/
theorem moveIndex_of_found_file :
    let operations : List LibraryOperation :=
      [.defineProperty "mood" .str true none none,
        .importRecords [{ path := "/a.mkv", size := 9, flags := { found := false } }], .moveIndex,
        .importRecords [{ path := "/b.mkv", size := 9 }], .moveIndex,
        .setTag [1] "mood" [.str "calm"], .importRecords [{ id := 2, path := "/c.mkv" }]]
    ∃ index l', moveIndex (afterAll operations) = .ok index l' ∧
      index.candidates 1 = [⟨2, "/b.mkv"⟩] := by
  intro operations
  have hpaths : ∀ records, .importRecords records ∈ operations → ∀ r ∈ records, r.path ≠ "" := by
    intro records hmem
    simp only [operations, List.mem_cons, reduceCtorEq, LibraryOperation.importRecords.injEq,
      List.not_mem_nil, or_false, false_or] at hmem
    rcases hmem with rfl | rfl | rfl <;> simp
  have htaken : ∀ count < 8,
      (afterAll (operations.take count)).store.nextId.toNat + 1 < UInt64.size := by decide +kernel
  have hids : ∀ earlier, earlier <+: operations →
      (afterAll earlier).store.nextId.toNat + 1 < UInt64.size := by
    intro earlier hearlier
    rw [List.prefix_iff_eq_take.mp hearlier]
    exact htaken _ (Nat.lt_succ_of_le hearlier.length_le)
  obtain ⟨l', hanswer⟩ := moveIndex_is_that_of_records operations hpaths hids
  exact ⟨_, l', hanswer, by decide +kernel⟩

end MediaLibrary.Library
