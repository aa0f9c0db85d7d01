/-
What a list of identifiers has been through.

A list in an index starts empty, and identifiers are inserted and removed one at a time.  What it
holds in the end can be read off the changes alone: an identifier is listed if it was inserted and
has not been removed since.  That an answer tells whether anything changed follows from the same
invariant, for the place of an identifier is found only in a list that ascends.

The list is written with its length in front, and each identifier in as few bytes as its width
allows.  It is read back whatever follows.
-/
import Mathlib.Data.List.Induction
import MediaLibrary.Proofs.Bytes.Reads
import MediaLibrary.Proofs.Store.IdList

namespace MediaLibrary

/-- A change to a list of identifiers. -/
inductive IdEdit where
  | insert (id : RecordId)
  | remove (id : RecordId)
  deriving DecidableEq

namespace IdList

variable {l : IdList} {edits : List IdEdit} {id a : RecordId}

/-! ### Changes -/

/-- Carries out a change; answers whether anything is different now. -/
def edit (l : IdList) : IdEdit → Bool × IdList
  | .insert id => l.insert id
  | .remove id => l.remove id

/-- The list that some changes make of the empty one. -/
def afterAll (edits : List IdEdit) : IdList :=
  edits.foldl (fun l e => (l.edit e).2) empty

theorem afterAll_concat (edits : List IdEdit) (e : IdEdit) :
    afterAll (edits ++ [e]) = ((afterAll edits).edit e).2 := by
  rw [afterAll, List.foldl_append]
  rfl

/-- The identifier was inserted and has not been removed since. -/
def Listed (edits : List IdEdit) (id : RecordId) : Prop :=
  ∃ before since, edits = before ++ .insert id :: since ∧ .remove id ∉ since

theorem listed_nil : ¬Listed [] id := by
  rintro ⟨before, since, h, _⟩
  simp at h

/-- A further change decides about the identifier that it names, and about no other. -/
theorem listed_concat {e : IdEdit} :
    Listed (edits ++ [e]) a ↔ e = .insert a ∨ e ≠ .remove a ∧ Listed edits a := by
  constructor
  · rintro ⟨before, since, h, hsince⟩
    rcases List.eq_nil_or_concat since with rfl | ⟨since, last, rfl⟩
    · exact Or.inl (List.append_inj_right' h rfl |> List.singleton_inj.mp)
    · rw [List.concat_eq_append, ← List.cons_append, ← List.append_assoc] at h
      obtain ⟨rfl, hlast⟩ := List.append_inj' h rfl
      obtain rfl := List.singleton_inj.mp hlast
      rw [List.concat_eq_append, List.mem_append, List.mem_singleton, not_or] at hsince
      exact Or.inr ⟨Ne.symm hsince.2, before, since, rfl, hsince.1⟩
  · rintro (rfl | ⟨hne, before, since, rfl, hsince⟩)
    · exact ⟨edits, [], rfl, List.not_mem_nil⟩
    · refine ⟨before, since ++ [e], by simp, ?_⟩
      rw [List.mem_append, List.mem_singleton, not_or]
      exact ⟨hsince, Ne.symm hne⟩

/-! ### What a change does -/

/-- **A step**: a change keeps the order. -/
theorem edit_ascending (h : Ascending l.ids) (e : IdEdit) : Ascending (l.edit e).2.ids := by
  cases e with
  | insert id => exact insert_ascending h id
  | remove id => exact remove_ascending h id

/-- A change decides about the identifier that it names, and about no other. -/
theorem mem_edit (h : Ascending l.ids) {e : IdEdit} :
    a ∈ (l.edit e).2.ids ↔ e = .insert a ∨ e ≠ .remove a ∧ a ∈ l.ids := by
  cases e with
  | insert id => simp [edit, mem_insert, eq_comm]
  | remove id => simp [edit, mem_remove h, eq_comm]

/-- **A change is answered with whether it changes a member.** -/
theorem edit_answer_iff (h : Ascending l.ids) {e : IdEdit} :
    (l.edit e).1 = true ↔ ¬∀ a, a ∈ (l.edit e).2.ids ↔ a ∈ l.ids := by
  cases e with
  | insert id =>
      have hsame : (∀ a, a ∈ (l.insert id).2.ids ↔ a ∈ l.ids) ↔ id ∈ l.ids := by
        simp [mem_insert]
      rw [edit, insert_fst_iff h, hsame]
  | remove id =>
      have hsame : (∀ a, a ∈ (l.remove id).2.ids ↔ a ∈ l.ids) ↔ id ∉ l.ids := by
        simp only [mem_remove h, and_iff_right_iff_imp]
        exact ⟨fun hall hid => hall id hid rfl, fun hnot a ha hc => hnot (hc ▸ ha)⟩
      rw [edit, remove_fst_iff h, hsame, not_not]

/-! ### What all changes do -/

/-- **A run**: after any changes the list ascends, and holds what they list. -/
theorem afterAll_holds (edits : List IdEdit) :
    Ascending (afterAll edits).ids ∧ ∀ id, id ∈ (afterAll edits).ids ↔ Listed edits id := by
  induction edits using List.reverseRecOn with
  | nil => exact ⟨.nil, fun id => by simp [afterAll, empty, listed_nil]⟩
  | append_singleton edits e ih =>
      obtain ⟨hascending, hlisted⟩ := ih
      rw [afterAll_concat]
      refine ⟨edit_ascending hascending e, fun id => ?_⟩
      rw [mem_edit hascending, listed_concat, hlisted]

/-! ### The written form -/

/-- The list has a length that a list in memory can have. -/
def Addressable (l : IdList) : Prop := l.ids.length * 8 < 2 ^ 63

open Bytes in
/-- **A list is read back**, be it in order or not. -/
theorem reads_toBytes (h : l.Addressable) : Reads read l.toBytes l := by
  have hids : Reads (times natural64 l.ids.length) (l.ids.flatMap fun id => ofNat id.toNat)
      (l.ids.map UInt64.toNat) := reads_times fun id _ => reads_natural64 id.toNat_lt
  have hback : (l.ids.map UInt64.toNat).map UInt64.ofNat = l.ids := by
    simp [List.map_map, Function.comp_def]
  refine ((reads_length (by decide) h).bind (hids.map ?_) : Reads read _ l)
  rw [hback]
  exact reads_pure l

/-- **A list holds what its changes say.**  After any insertions and removals the list ascends, and
holds the identifiers that were inserted and not removed since; the next change is answered with
whether it makes a difference to them.  Any list of identifiers is read back from its bytes,
whatever follows these. -/
theorem edits_list_identifiers {l : IdList} (hl : l.Addressable) (edits : List IdEdit) :
    Ascending (afterAll edits).ids ∧
    (∀ id, id ∈ (afterAll edits).ids ↔ Listed edits id) ∧
    (∀ e, ((afterAll edits).edit e).1 = true ↔
      ¬∀ id, Listed (edits ++ [e]) id ↔ Listed edits id) ∧
    ∀ rest, ofBytes (l.toBytes ++ rest) = .ok l := by
  obtain ⟨hascending, hlisted⟩ := afterAll_holds edits
  refine ⟨hascending, hlisted, fun e => ?_, fun rest => ?_⟩
  · rw [edit_answer_iff hascending, ← afterAll_concat]
    simp only [(afterAll_holds (edits ++ [e])).2, hlisted]
  · rw [ofBytes, Bytes.first, reads_toBytes hl rest]
    rfl

/-- An identifier is put between two others, and goes when it is taken out.  The list that is read
has identifiers on both sides of each width. -/
theorem edits_list_three_identifiers :
    let edits : List IdEdit := [.insert 5, .insert 1, .insert 3, .insert 3]
    let l : IdList := ⟨[0, 250, 251, 65535, 65536, 4294967295, 4294967296, 18446744073709551615]⟩
    3 ∈ (afterAll edits).ids ∧ ((afterAll edits).edit (.remove 3)).1 = true ∧
      ofBytes (l.toBytes ++ [253]) = .ok l := by
  intro edits l
  have hl : l.Addressable := by unfold Addressable; decide
  obtain ⟨_, hlisted, hanswer, hread⟩ := edits_list_identifiers hl edits
  have hthree : Listed edits 3 := ⟨[.insert 5, .insert 1], [.insert 3], rfl, by decide⟩
  refine ⟨(hlisted 3).mpr hthree, (hanswer _).mpr fun hsame => ?_, hread [253]⟩
  have hremoved := listed_concat.mp ((hsame 3).mpr hthree)
  simp at hremoved

end IdList

end MediaLibrary
