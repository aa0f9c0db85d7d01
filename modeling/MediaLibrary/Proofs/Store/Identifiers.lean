/-
Identifiers are given away once.

An identifier is known from the moment when a record stands under it or an insertion answers
with it.  It stays known when the record is removed, and until the store is cleared.  Nothing
but clearing makes the next identifier smaller, and it is above every identifier in use, so by
induction over the run it is above every known one.

The next identifier is what an insertion assigns.  The highest identifier of all has none after
it, so it is never assigned and never taken from a record either.
-/
import MediaLibrary.Proofs.Store.Batch

namespace MediaLibrary

open Std

/-! ### Refused input -/

/-- It is the input that is wrong, as the message says. -/
def StoreError.IsInvalidInput (e : StoreError) : Prop :=
  ∃ reason, e.message = "Invalid input: " ++ reason

theorem StoreError.isInvalidInput_emptyPath : emptyPath.IsInvalidInput :=
  ⟨"record path is empty", by decide⟩

theorem StoreError.isInvalidInput_idOutOfRange (id : RecordId) :
    (idOutOfRange id).IsInvalidInput := by
  refine ⟨s!"record id {id.toNat} is out of range", ?_⟩
  have hhead : "Invalid input: record id " = "Invalid input: " ++ "record id " := by decide
  show "Invalid input: record id " ++ toString id.toNat ++ " is out of range" = _
  rw [hhead, String.append_assoc, String.append_assoc]
  rfl

/-! ### The next identifier -/

namespace PlainStore

variable {p p' : PlainStore}

theorem nextId_le_of_insert {r : Record} {id : RecordId} (h : p.insert r = .ok (id, p')) :
    p.nextId ≤ p'.nextId := by
  unfold insert at h
  dsimp only at h
  generalize (if r.id = 0 then p.nextId else r.id) = given at h
  by_cases hpath : r.path.isEmpty = true
  · rw [if_pos hpath] at h
    cases h
  by_cases hlast : given.toNat + 1 = UInt64.size
  · rw [if_neg hpath, if_pos hlast] at h
    cases h
  rw [if_neg hpath, if_neg hlast] at h
  cases h
  show p.nextId ≤ if id < p.nextId then p.nextId else id + 1
  split
  · exact UInt64.le_refl _
  · rename_i hge
    exact UInt64.le_of_lt (UInt64.lt_of_le_of_lt (UInt64.not_lt.mp hge) (RecordId.lt_succ hlast))

theorem nextId_of_setValues {ids : List RecordId} {property : String} {values : List Value}
    {count : Nat} (h : p.setValues ids property values = .ok (count, p')) :
    p'.nextId = p.nextId := by
  unfold setValues at h
  dsimp only at h
  split at h
  · cases h
  · cases h
    rfl

theorem nextId_of_applyChange {change : CatalogChange} {count : Nat}
    (h : p.applyChange change = .ok (count, p')) : p'.nextId = p.nextId := by
  unfold applyChange at h
  split at h
  · cases h
    rfl
  · dsimp only at h
    split at h
    · cases h
      rfl
    · cases h
  · cases h
    rfl
  · cases h
    rfl

/-- Only clearing makes the next identifier smaller. -/
theorem nextId_le_of_perform {operation : StoreOperation} {answer : StoreAnswer}
    (h : p.perform operation = .ok (answer, p')) (hclear : operation ≠ .clear) :
    p.nextId ≤ p'.nextId := by
  cases operation with
  | insert r =>
      obtain ⟨⟨id, q⟩, hinsert, hanswer⟩ := Checked.exists_of_map_ok h
      cases hanswer
      exact nextId_le_of_insert hinsert
  | setValues ids property values =>
      obtain ⟨⟨count, q⟩, hset, hanswer⟩ := Checked.exists_of_map_ok h
      cases hanswer
      exact UInt64.le_of_eq (nextId_of_setValues hset).symm
  | applyChange change =>
      obtain ⟨⟨count, q⟩, happly, hanswer⟩ := Checked.exists_of_map_ok h
      cases hanswer
      exact UInt64.le_of_eq (nextId_of_applyChange happly).symm
  | clear => exact absurd rfl hclear
  | remove _ | saveDefinition _ | deleteDefinition _ | reopen =>
      cases h
      exact UInt64.le_refl _

end PlainStore

namespace Store

variable {s s' : Store} {operations : List StoreOperation} {r : Record} {id : RecordId}

theorem Sound.nextId_le_after (h : s.Sound) {operation : StoreOperation}
    (hclear : operation ≠ .clear) : s.nextId ≤ (s.after operation).nextId := by
  show s.plain.nextId ≤ (s.after operation).plain.nextId
  rw [h.plain_after, PlainStore.after]
  split
  · rename_i answer p hperform
    exact PlainStore.nextId_le_of_perform hperform hclear
  · exact UInt64.le_refl _

theorem afterAll_concat (operations : List StoreOperation) (operation : StoreOperation) :
    afterAll (operations ++ [operation]) = (afterAll operations).after operation := by
  rw [afterAll, List.foldl_append]
  rfl

/-! ### Identifiers in use -/

theorem exists_of_contains (h : s.contains id = true) : ∃ r, s.records[id]? = some r := by
  have hcontains : s.records.contains id = true := h
  rw [ExtTreeMap.contains_eq_isSome_getElem?] at hcontains
  exact Option.isSome_iff_exists.mp hcontains

theorem Sound.given_of_contains (h : s.Sound) (hid : s.contains id = true) :
    id ≠ 0 ∧ id < s.nextId := by
  obtain ⟨q, hq⟩ := exists_of_contains hid
  exact h.given id q hq

theorem perform_insert_of_takes (h : s.Takes r) :
    s.perform (.insert r) = .ok (.stored (s.givenId r),
      (s.reserved (s.givenId r)).put { r with id := s.givenId r }) := by
  show (s.insert r).map _ = _
  rw [insert_of_takes h]
  rfl

/-- What an insertion answers with is the identifier of the record, which is in use from then
on. -/
theorem stored_of_perform (h : s.perform (.insert r) = .ok (.stored id, s')) :
    id = s.givenId r ∧ s'.contains id = true := by
  obtain ⟨⟨given, last⟩, hinsert, hanswer⟩ := Checked.exists_of_map_ok h
  cases hanswer
  obtain ⟨hid, hrecords, _⟩ := insert_leaves hinsert
  refine ⟨hid, ?_⟩
  show s'.records.contains id = true
  rw [hrecords, ExtTreeMap.contains_insert_self]

/-! ### Known identifiers -/

/-- A record stood under the identifier, or an insertion answered with it, since the store was
last cleared. -/
inductive Known : List StoreOperation → RecordId → Prop
  | inUse {operations : List StoreOperation} {id : RecordId}
      (h : (afterAll operations).contains id = true) : Known operations id
  | answered {operations : List StoreOperation} {r : Record} {id : RecordId} {s' : Store}
      (h : (afterAll operations).perform (.insert r) = .ok (.stored id, s')) :
      Known (operations ++ [.insert r]) id
  | later {operations : List StoreOperation} {operation : StoreOperation} {id : RecordId}
      (h : Known operations id) (hclear : operation ≠ .clear) : Known (operations ++ [operation]) id

/-- **The next identifier is above every known one.** -/
theorem Known.lt_nextId (h : Known operations id) : id < (afterAll operations).nextId := by
  induction h with
  | inUse h => exact ((sound_afterAll _).given_of_contains h).2
  | @answered operations r id s' h =>
      have hs := sound_afterAll (operations ++ [.insert r])
      rw [afterAll_concat, after, h] at hs
      rw [afterAll_concat, after, h]
      exact (hs.given_of_contains (stored_of_perform h).2).2
  | later h hclear ih =>
      rw [afterAll_concat]
      exact UInt64.lt_of_lt_of_le ih ((sound_afterAll _).nextId_le_after hclear)

/-! ### Insertions -/

/-- The highest identifier of all is given to no record. -/
theorem perform_insert_of_last (hlast : (s.givenId r).toNat + 1 = UInt64.size) :
    s.perform (.insert r) =
      .error (if r.path.isEmpty then .emptyPath else .idOutOfRange (s.givenId r)) := by
  have hreserve := reserve_eq s (s.givenId r)
  rw [if_pos hlast] at hreserve
  show (s.insert r).map _ = _
  rw [insert_eq]
  split
  · rfl
  · show ((s.reserve (s.givenId r)).map fun s' =>
      (s.givenId r, s'.put { r with id := s.givenId r })).map _ = _
    rw [hreserve]
    rfl

/-- **Identifiers are never used again.**  After any run, refused operations included, no record
stands under zero or under the highest identifier.  A record that comes without an identifier
and has a path is stored under one above every identifier that was in use, or answered with,
since the store was last cleared, whether its record is still there or not.  Where that would be
the highest identifier of all, the insertion is refused for its input and the store is as it
was. -/
theorem identifiers_are_never_reused (operations : List StoreOperation) (r : Record) :
    let s := afterAll operations
    (∀ id, s.contains id = true → id ≠ 0 ∧ id.toNat + 1 < UInt64.size) ∧
      ((s.givenId r).toNat + 1 < UInt64.size → r.path.isEmpty = false →
        ∃ s', s.perform (.insert r) = .ok (.stored (s.givenId r), s')) ∧
      (∀ id s', s.perform (.insert r) = .ok (.stored id, s') → r.id = 0 →
        ∀ known, Known operations known → known < id) ∧
      ((s.givenId r).toNat + 1 = UInt64.size →
        (∃ e : StoreError, s.perform (.insert r) = .error e ∧ e.IsInvalidInput) ∧
          s.after (.insert r) = s) := by
  intro s
  have h : s.Sound := sound_afterAll operations
  refine ⟨fun id hid => ?_, fun hlast hpath => ?_, fun id s' hstored hid known hknown => ?_,
    fun hlast => ?_⟩
  · obtain ⟨hne, hlt⟩ := h.given_of_contains hid
    have hlt := UInt64.lt_iff_toNat_lt.mp hlt
    have hnext := s.nextId.toNat_lt_size
    exact ⟨hne, by omega⟩
  · exact ⟨_, perform_insert_of_takes ⟨hpath, Nat.ne_of_lt hlast⟩⟩
  · have hgiven : id = s.nextId := by
      rw [(stored_of_perform hstored).1, givenId, if_pos hid]
    rw [hgiven]
    exact hknown.lt_nextId
  · have hrefused := perform_insert_of_last hlast
    refine ⟨⟨_, hrefused, ?_⟩, by rw [after, hrefused]⟩
    split
    · exact StoreError.isInvalidInput_emptyPath
    · exact StoreError.isInvalidInput_idOutOfRange _

/-- The only record was removed, and the next one is not stored in its place.  In a store that
is as empty, but in which the last identifier that can be given away was in use, nothing is
stored any more. -/
theorem removed_identifier_is_not_assigned :
    let removed : List StoreOperation := [.insert { id := 5, path := "/a.mkv" }, .remove 5]
    let exhausted : List StoreOperation :=
      [.insert { id := 18446744073709551614, path := "/a.mkv" }, .remove 18446744073709551614]
    let r : Record := { path := "/b.mkv" }
    (∃ id s', (afterAll removed).perform (.insert r) = .ok (.stored id, s') ∧ 5 < id) ∧
      (afterAll exhausted).toList = [] ∧
      ∃ e : StoreError, (afterAll exhausted).perform (.insert r) = .error e ∧ e.IsInvalidInput := by
  intro removed exhausted r
  obtain ⟨_, hstores, hfresh, _⟩ := identifiers_are_never_reused removed r
  obtain ⟨s', hstored⟩ := hstores (by decide +kernel) (by decide)
  have hknown : Known ([.insert { id := 5, path := "/a.mkv" }] ++ [.remove 5]) 5 :=
    .later (.inUse (by decide +kernel)) (by simp)
  obtain ⟨_, _, _, hlast⟩ := identifiers_are_never_reused exhausted r
  exact ⟨⟨_, s', hstored, hfresh _ s' hstored rfl 5 hknown⟩, by decide +kernel,
    (hlast (by decide +kernel)).1⟩

end Store

end MediaLibrary
