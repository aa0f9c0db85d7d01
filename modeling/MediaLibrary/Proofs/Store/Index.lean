/-
What an index says.

An index is meant to answer, for every key, which records have it.  `Lists has` says
that it does for the relation `has` between records and keys: an identifier stands
under a key exactly when the record has the key, every entry is ascending, and no entry
is empty.  The last two make the index a function of the relation, so that an index kept
up to date over many changes is the one that would be made anew.

Taking a record out and putting it back with other keys is the only change there is.
`replace` is its law, and it asks for one thing: the keys taken out have to include all
that the record is listed under.
-/
import MediaLibrary.Proofs.OrderedMap
import MediaLibrary.Proofs.Store.IdList
import MediaLibrary.Store.Index

namespace MediaLibrary.Index

open Std

variable {κ : Type} [Ord κ] [TransOrd κ]

/-- The index lists exactly the records that have a key. -/
structure Lists (index : Index κ) (has : RecordId → κ → Prop) : Prop where
  /-- An identifier stands under the keys of its record and no others. -/
  mem : ∀ key id, id ∈ (index.getD key .empty).ids ↔ has id key
  /-- Entries are ascending, hence without repetition. -/
  ascending : ∀ key, IdList.Ascending (index.getD key .empty).ids
  /-- A key without records has no entry. -/
  nonempty : ∀ (key : κ) (list : IdList), index[key]? = some list → list.ids ≠ []

theorem lists_empty : Lists (∅ : Index κ) fun _ _ => False where
  mem key id := by simp [IdList.empty]
  ascending key := by simp [IdList.empty]
  nonempty key list h := by simp at h

/-- Only what a relation says matters, not how it is written. -/
theorem Lists.congr {index : Index κ} {has has' : RecordId → κ → Prop} (h : index.Lists has)
    (hiff : ∀ id key, has id key ↔ has' id key) : index.Lists has' where
  mem key id := (h.mem key id).trans (hiff id key)
  ascending := h.ascending
  nonempty := h.nonempty

/-- The entry of a key is the list of its records, where it has any. -/
theorem Lists.getElem?_eq {index : Index κ} {has : RecordId → κ → Prop} (h : index.Lists has)
    {key : κ} {ids : List RecordId} (hids : IdList.Ascending ids)
    (hmem : ∀ id, id ∈ ids ↔ has id key) :
    index[key]? = if ids = [] then none else some ⟨ids⟩ := by
  have heq : (index.getD key .empty).ids = ids :=
    (h.ascending key).eq_of_mem_iff hids fun id => (h.mem key id).trans (hmem id).symm
  rw [ExtTreeMap.getD_eq_getD_getElem?] at heq
  cases hentry : index[key]? with
  | none =>
      rw [hentry] at heq
      simp [← heq, IdList.empty]
  | some list =>
      rw [hentry] at heq
      have hne : ids ≠ [] := heq ▸ h.nonempty key list hentry
      rw [if_neg hne, ← heq]
      rfl

section

variable [LawfulEqOrd κ]

/-- A relation has one index. -/
theorem Lists.unique {index index' : Index κ} {has : RecordId → κ → Prop} (h : index.Lists has)
    (h' : index'.Lists has) : index = index' := by
  refine ExtTreeMap.ext_getElem? fun key => ?_
  have hmem : ∀ id, id ∈ (index.getD key .empty).ids ↔ has id key := h.mem key
  rw [h.getElem?_eq (h.ascending key) hmem, h'.getElem?_eq (h.ascending key) hmem]

/-! ### One key -/

theorem Lists.add {index : Index κ} {has : RecordId → κ → Prop} (h : index.Lists has)
    (id : RecordId) (key : κ) :
    (index.add id key).Lists fun i k => (i = id ∧ k = key) ∨ has i k := by
  refine ⟨?_, ?_, ?_⟩
  · intro k i
    rw [Index.add, ExtTreeMap.getD_insert]
    split
    · rename_i hk
      obtain rfl := OrderedMap.compare_eq_iff.mp hk
      rw [IdList.mem_insert, h.mem]
      simp
    · rename_i hk
      have hk : k ≠ key := fun hc => hk (by simp [hc])
      rw [h.mem]
      simp [hk]
  · intro k
    rw [Index.add, ExtTreeMap.getD_insert]
    split
    · exact IdList.insert_ascending (h.ascending key) id
    · exact h.ascending k
  · intro k list hlist
    rw [Index.add, ExtTreeMap.getElem?_insert] at hlist
    split at hlist
    · obtain rfl : _ = list := Option.some.inj hlist
      exact List.ne_nil_of_mem (IdList.mem_insert.mpr (Or.inl rfl))
    · exact h.nonempty k list hlist

/-- What is left under a key when a record is taken out of its entry. -/
private theorem ids_drop_self (index : Index κ) (id : RecordId) (key : κ) :
    ((index.drop id key).getD key .empty).ids = ((index.getD key .empty).remove id).2.ids := by
  rw [ExtTreeMap.getD_eq_getD_getElem?, ExtTreeMap.getD_eq_getD_getElem?]
  unfold Index.drop
  cases hentry : index[key]? with
  | none =>
      have hnone : id ∉ IdList.empty.ids := by simp [IdList.empty]
      simp [hentry, IdList.remove_of_notMem hnone]
  | some list =>
      by_cases hempty : (list.remove id).2.isEmpty
      · have hnil : (list.remove id).2.ids = [] := by simpa [IdList.isEmpty] using hempty
        simp [hempty, hnil, IdList.empty]
      · simp [hempty]

private theorem getD_drop_ne (index : Index κ) (id : RecordId) {key k : κ} (hne : key ≠ k) :
    (index.drop id key).getD k .empty = index.getD k .empty := by
  have hcmp : ¬compare key k = .eq := fun hc => hne (OrderedMap.compare_eq_iff.mp hc)
  unfold Index.drop
  split
  · rfl
  · by_cases hempty : (IdList.remove ‹IdList› id).2.isEmpty
    · simp only [hempty, if_true]
      rw [ExtTreeMap.getD_erase, if_neg hcmp]
    · simp only [hempty, if_false, Bool.false_eq_true]
      rw [ExtTreeMap.getD_insert, if_neg hcmp]

theorem Lists.drop {index : Index κ} {has : RecordId → κ → Prop} (h : index.Lists has)
    (id : RecordId) (key : κ) :
    (index.drop id key).Lists fun i k => ¬(i = id ∧ k = key) ∧ has i k := by
  refine ⟨?_, ?_, ?_⟩
  · intro k i
    by_cases hk : key = k
    · subst hk
      rw [ids_drop_self, IdList.mem_remove (h.ascending key), h.mem]
      simp
    · rw [getD_drop_ne index id hk, h.mem]
      simp [Ne.symm hk]
  · intro k
    by_cases hk : key = k
    · subst hk
      rw [ids_drop_self]
      exact IdList.remove_ascending (h.ascending key) id
    · rw [getD_drop_ne index id hk]
      exact h.ascending k
  · intro k list hlist
    unfold Index.drop at hlist
    split at hlist
    · exact h.nonempty k list hlist
    · dsimp only at hlist
      split at hlist
      · rw [ExtTreeMap.getElem?_erase] at hlist
        split at hlist
        · simp at hlist
        · exact h.nonempty k list hlist
      · rename_i hne
        rw [ExtTreeMap.getElem?_insert] at hlist
        split at hlist
        · obtain rfl : _ = list := Option.some.inj hlist
          simpa [IdList.isEmpty] using hne
        · exact h.nonempty k list hlist

/-! ### Several keys -/

theorem Lists.addAll {has : RecordId → κ → Prop} (id : RecordId) (keys : List κ) :
    ∀ {index : Index κ}, index.Lists has →
      (index.addAll id keys).Lists fun i k => (i = id ∧ k ∈ keys) ∨ has i k := by
  induction keys generalizing has with
  | nil =>
      intro index h
      exact h.congr fun i k => by simp
  | cons key rest ih =>
      intro index h
      refine (ih (h.add id key)).congr fun i k => ?_
      simp only [List.mem_cons]
      grind

theorem Lists.dropAll {has : RecordId → κ → Prop} (id : RecordId) (keys : List κ) :
    ∀ {index : Index κ}, index.Lists has →
      (index.dropAll id keys).Lists fun i k => ¬(i = id ∧ k ∈ keys) ∧ has i k := by
  induction keys generalizing has with
  | nil =>
      intro index h
      exact h.congr fun i k => by simp
  | cons key rest ih =>
      intro index h
      refine (ih (h.drop id key)).congr fun i k => ?_
      simp only [List.mem_cons]
      grind

/-- A record is taken out under all its keys. -/
theorem Lists.forget {index : Index κ} {has : RecordId → κ → Prop} (h : index.Lists has)
    {id : RecordId} {keys : List κ} (hkeys : ∀ key, has id key → key ∈ keys) :
    (index.dropAll id keys).Lists fun i k => i ≠ id ∧ has i k := by
  refine (h.dropAll id keys).congr fun i k => ?_
  constructor
  · rintro ⟨hnot, hhas⟩
    exact ⟨fun hc => hnot ⟨hc, hkeys k (hc ▸ hhas)⟩, hhas⟩
  · rintro ⟨hne, hhas⟩
    exact ⟨fun hc => hne hc.1, hhas⟩

end

end MediaLibrary.Index
