/-
The invariant of the store.

A store is sound when its two indices cover its records: an identifier stands under a
tag or a term exactly when the record kept under it has that tag or term.  The rest of
the invariant is what the writing operations need to go on: every record is kept under
its own identifier, has a path, and has an identifier that was given away before, so
that writing it again is never refused.

`put` and `remove` are the only ways to write a record.  Both first take the old record
out of the indices, so both lemmas have the same two halves: the indices cover the
records without the old one, and then with the new one.
-/
import MediaLibrary.Proofs.OrderedMap
import MediaLibrary.Proofs.Store.Index
import MediaLibrary.Store.Basic

namespace MediaLibrary

open Std

namespace Record

/-- A record has the tags of the values it holds. -/
theorem mem_tags {r : Record} {tag : Tag} : tag ∈ r.tags ↔ tag.value ∈ r.values tag.property := by
  unfold Record.tags Record.values
  rw [ExtTreeMap.getD_eq_getD_getElem?]
  constructor
  · intro h
    obtain ⟨⟨property, values⟩, hmem, htag⟩ := List.mem_flatMap.mp h
    obtain ⟨value, hvalue, rfl⟩ := List.mem_map.mp htag
    rw [ExtTreeMap.mem_toList_iff_getElem?_eq_some] at hmem
    simpa [hmem] using hvalue
  · intro h
    cases hvalues : r.properties[tag.property]? with
    | none => simp [hvalues] at h
    | some values =>
        refine List.mem_flatMap.mpr ⟨(tag.property, values), ?_, ?_⟩
        · exact ExtTreeMap.mem_toList_iff_getElem?_eq_some.mpr hvalues
        · exact List.mem_map.mpr ⟨tag.value, by simpa [hvalues] using h, rfl⟩

end Record

/-! ### Identifiers -/

namespace RecordId

variable {id : RecordId}

/-- Every identifier but the highest has one after it. -/
theorem toNat_succ (h : id.toNat + 1 ≠ UInt64.size) : (id + 1).toNat = id.toNat + 1 := by
  have hlt := id.toNat_lt_size
  have hsize : UInt64.size = 2 ^ 64 := rfl
  rw [UInt64.toNat_add, UInt64.toNat_one]
  omega

theorem lt_succ (h : id.toNat + 1 ≠ UInt64.size) : id < id + 1 := by
  rw [UInt64.lt_iff_toNat_lt, toNat_succ h]
  exact Nat.lt_succ_self _

end RecordId

/-! ### Indices over the records of a store -/

namespace Index

variable {κ : Type} [Ord κ] [TransOrd κ] {keysOf : Record → List κ}
  {records : ExtTreeMap RecordId Record} {index : Index κ}

/-- The index that does not list a record, if there is one. -/
def unlist (index : Index κ) (keysOf : Record → List κ) : Option Record → Index κ
  | some old => index.dropAll old.id (keysOf old)
  | none => index

/-- The index lists the records under the keys they have. -/
abbrev Covers (index : Index κ) (keysOf : Record → List κ)
    (records : ExtTreeMap RecordId Record) : Prop :=
  index.Lists fun id key => ∃ r, records[id]? = some r ∧ key ∈ keysOf r

theorem covers_empty : Covers (∅ : Index κ) keysOf ∅ :=
  lists_empty.congr fun id key => by simp

theorem Covers.erase_absent (h : index.Covers keysOf records) {id : RecordId}
    (habsent : records[id]? = none) : index.Covers keysOf (records.erase id) := by
  refine h.congr fun i key => ?_
  rw [OrderedMap.getElem?_erase]
  split
  · rename_i heq
    subst heq
    simp [habsent]
  · rfl

variable [LawfulEqOrd κ]

theorem Covers.erase (h : index.Covers keysOf records) {id : RecordId} {old : Record}
    (hold : records[id]? = some old) :
    (index.dropAll id (keysOf old)).Covers keysOf (records.erase id) := by
  have hkeys : ∀ key, (∃ r, records[id]? = some r ∧ key ∈ keysOf r) → key ∈ keysOf old := by
    rintro key ⟨r, hr, hkey⟩
    rw [hold] at hr
    exact Option.some.inj hr ▸ hkey
  refine (h.forget hkeys).congr fun i key => ?_
  rw [OrderedMap.getElem?_erase]
  by_cases hi : i = id
  · subst hi
    simp
  · rw [if_neg (Ne.symm hi)]
    simp [hi]

/-- **An index that forgets the record of an identifier covers the others.** -/
theorem Covers.unlist (h : index.Covers keysOf records)
    (hkeyed : OrderedMap.Keyed Record.id records) (id : RecordId) :
    (index.unlist keysOf records[id]?).Covers keysOf (records.erase id) := by
  cases hold : records[id]? with
  | none => exact h.erase_absent hold
  | some old =>
      have hid : old.id = id := hkeyed id old hold
      rw [Index.unlist, hid]
      exact h.erase hold

theorem Covers.insert {r : Record} (h : index.Covers keysOf (records.erase r.id)) :
    (index.addAll r.id (keysOf r)).Covers keysOf (records.insert r.id r) := by
  refine (h.addAll r.id (keysOf r)).congr fun i key => ?_
  rw [OrderedMap.getElem?_erase, OrderedMap.getElem?_insert]
  by_cases hi : i = r.id
  · subst hi
    simp
  · rw [if_neg (Ne.symm hi), if_neg (Ne.symm hi)]
    simp [hi]

end Index

/-! ### The invariant -/

namespace Store

variable {s : Store}

/-- The indices cover the records, and the records could all be written again. -/
structure Sound (s : Store) : Prop where
  tags : s.tags.Covers Record.tags s.records
  terms : s.terms.Covers Record.terms s.records
  /-- A record is kept under its own identifier. -/
  keyed : OrderedMap.Keyed Record.id s.records
  /-- A record has a path. -/
  path : ∀ (id : RecordId) (r : Record), s.records[id]? = some r → r.path.isEmpty = false
  /-- An identifier in use was given away, and zero never is. -/
  given : ∀ (id : RecordId) (r : Record), s.records[id]? = some r → id ≠ 0 ∧ id < s.nextId
  next : s.nextId ≠ 0
  /-- A definition is kept under its own name. -/
  named : OrderedMap.Keyed Definition.name s.definitions

/-- Without records there is nothing for the indices to cover. -/
theorem sound_bare {definitions : ExtTreeMap String Definition} {nextId : RecordId}
    (hnext : nextId ≠ 0) (hnamed : OrderedMap.Keyed Definition.name definitions) :
    ({ definitions, nextId } : Store).Sound where
  tags := Index.covers_empty
  terms := Index.covers_empty
  keyed id r h := by simp at h
  path id r h := by simp at h
  given id r h := by simp at h
  next := hnext
  named := hnamed

theorem sound_empty : empty.Sound :=
  sound_bare (by decide) fun name d h => by simp at h

/-- What is known of a record that is kept. -/
theorem Sound.kept (h : s.Sound) {id : RecordId} {r : Record} (hr : s.records[id]? = some r) :
    r.id = id ∧ r.path.isEmpty = false ∧ r.id ≠ 0 ∧ r.id < s.nextId := by
  have hkeyed := h.keyed id r hr
  obtain ⟨hne, hlt⟩ := h.given id r hr
  exact ⟨hkeyed, h.path id r hr, hkeyed ▸ hne, hkeyed ▸ hlt⟩

/-! ### Taking a record out of the indices -/

@[simp] theorem records_unindexId (s : Store) (id : RecordId) :
    (s.unindexId id).records = s.records := by
  unfold unindexId
  split <;> rfl

@[simp] theorem nextId_unindexId (s : Store) (id : RecordId) :
    (s.unindexId id).nextId = s.nextId := by
  unfold unindexId
  split <;> rfl

@[simp] theorem definitions_unindexId (s : Store) (id : RecordId) :
    (s.unindexId id).definitions = s.definitions := by
  unfold unindexId
  split <;> rfl

theorem tags_unindexId (s : Store) (id : RecordId) :
    (s.unindexId id).tags = s.tags.unlist Record.tags s.records[id]? := by
  unfold unindexId get?
  cases s.records[id]? <;> rfl

theorem terms_unindexId (s : Store) (id : RecordId) :
    (s.unindexId id).terms = s.terms.unlist Record.terms s.records[id]? := by
  unfold unindexId get?
  cases s.records[id]? <;> rfl

/-! ### Writing a record -/

@[simp] theorem records_put (s : Store) (r : Record) :
    (s.put r).records = s.records.insert r.id r := by
  simp [put, index]

@[simp] theorem nextId_put (s : Store) (r : Record) : (s.put r).nextId = s.nextId := by
  simp [put, index]

@[simp] theorem definitions_put (s : Store) (r : Record) :
    (s.put r).definitions = s.definitions := by
  simp [put, index]

theorem Sound.put (h : s.Sound) {r : Record} (hpath : r.path.isEmpty = false) (hid : r.id ≠ 0)
    (hlt : r.id < s.nextId) : (s.put r).Sound := by
  have hcases : ∀ (id : RecordId) (q : Record), (s.put r).records[id]? = some q →
      (id = r.id ∧ q = r) ∨ s.records[id]? = some q := by
    intro id q hq
    rw [records_put, OrderedMap.getElem?_insert] at hq
    split at hq
    · rename_i heq
      exact Or.inl ⟨heq.symm, (Option.some.inj hq).symm⟩
    · exact Or.inr hq
  refine ⟨?_, ?_, ?_, ?_, ?_, ?_, ?_⟩
  · rw [records_put]
    exact (tags_unindexId s r.id ▸ h.tags.unlist h.keyed r.id).insert
  · rw [records_put]
    exact (terms_unindexId s r.id ▸ h.terms.unlist h.keyed r.id).insert
  · rw [records_put]
    exact h.keyed.insert r
  · intro id q hq
    rcases hcases id q hq with ⟨rfl, rfl⟩ | hq
    · exact hpath
    · exact h.path id q hq
  · intro id q hq
    rw [nextId_put]
    rcases hcases id q hq with ⟨rfl, rfl⟩ | hq
    · exact ⟨hid, hlt⟩
    · exact h.given id q hq
  · rw [nextId_put]
    exact h.next
  · rw [definitions_put]
    exact h.named

/-! ### Removing a record -/

@[simp] theorem records_remove (s : Store) (id : RecordId) :
    (s.remove id).2.records = s.records.erase id := rfl

@[simp] theorem nextId_remove (s : Store) (id : RecordId) :
    (s.remove id).2.nextId = s.nextId := by
  simp [remove]

@[simp] theorem definitions_remove (s : Store) (id : RecordId) :
    (s.remove id).2.definitions = s.definitions := by
  simp [remove]

/-- Removing a record that is not there does nothing. -/
theorem remove_of_absent {id : RecordId} (h : s.contains id = false) :
    (s.remove id).2 = s := by
  have habsent : s.records[id]? = none := by
    have hcontains : s.records.contains id = false := h
    rwa [ExtTreeMap.contains_eq_isSome_getElem?, Option.isSome_eq_false_iff,
      Option.isNone_iff_eq_none] at hcontains
  have hunindex : s.unindexId id = s := by
    unfold unindexId get?
    rw [habsent]
  have herase : s.records.erase id = s.records := by
    refine ExtTreeMap.ext_getElem? fun i => ?_
    rw [OrderedMap.getElem?_erase]
    split
    · rename_i heq
      rw [← heq, habsent]
    · rfl
  unfold remove
  rw [hunindex, herase]

theorem Sound.remove (h : s.Sound) (id : RecordId) : (s.remove id).2.Sound := by
  have hcases : ∀ (i : RecordId) (q : Record),
      (s.remove id).2.records[i]? = some q → s.records[i]? = some q := by
    intro i q hq
    rw [records_remove, OrderedMap.getElem?_erase] at hq
    split at hq
    · simp at hq
    · exact hq
  refine ⟨tags_unindexId s id ▸ h.tags.unlist h.keyed id,
    terms_unindexId s id ▸ h.terms.unlist h.keyed id, ?_, ?_, ?_, ?_, ?_⟩
  · exact h.keyed.erase id
  · exact fun i q hq => h.path i q (hcases i q hq)
  · rw [nextId_remove]
    exact fun i q hq => h.given i q (hcases i q hq)
  · rw [nextId_remove]
    exact h.next
  · rw [definitions_remove]
    exact h.named

/-! ### The next identifier and the definitions -/

/-- The indices do not depend on the next identifier. -/
theorem Sound.reserve (h : s.Sound) {id : RecordId} {s' : Store} (hs : s.reserve id = .ok s') :
    s'.Sound ∧ s'.records = s.records ∧ s'.definitions = s.definitions ∧ id < s'.nextId := by
  unfold Store.reserve at hs
  split at hs
  · rename_i hlt
    obtain rfl : s = s' := Except.ok.inj hs
    exact ⟨h, rfl, rfl, hlt⟩
  · rename_i hge
    split at hs
    · rename_i hsize
      obtain rfl : _ = s' := Except.ok.inj hs
      have hbelow : id < id + 1 := RecordId.lt_succ (Nat.ne_of_lt hsize)
      refine ⟨⟨h.tags, h.terms, h.keyed, h.path, ?_, ?_, h.named⟩, rfl, rfl, hbelow⟩
      · intro i q hq
        obtain ⟨hne, hlt⟩ := h.given i q hq
        have hle : s.nextId ≤ id := UInt64.not_lt.mp hge
        exact ⟨hne, UInt64.lt_trans (UInt64.lt_of_lt_of_le hlt hle) hbelow⟩
      · intro hzero
        have hzero : id + 1 = 0 := hzero
        rw [hzero] at hbelow
        exact absurd hbelow (UInt64.not_lt_zero)
    · simp at hs

theorem Sound.saveDefinition (h : s.Sound) (d : Definition) : (s.saveDefinition d).Sound :=
  ⟨h.tags, h.terms, h.keyed, h.path, h.given, h.next, h.named.insert d⟩

theorem Sound.deleteDefinition (h : s.Sound) (name : String) :
    (s.deleteDefinition name).2.Sound :=
  ⟨h.tags, h.terms, h.keyed, h.path, h.given, h.next, h.named.erase name⟩

end Store

end MediaLibrary
