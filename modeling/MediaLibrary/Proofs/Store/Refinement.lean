/-
The store refines the store without indices.

What a store is, its indices aside, is the plain store `s.plain`.  One lemma for each
operation says that a sound store stays sound and that the operation answers the same on
both and does the same to what is kept, or is refused for the same reason.  A run from the
empty store then keeps the two in step, and everything that is asked of the indices is
answered as by a pass over the records of the plain store.
-/
import MediaLibrary.Proofs.Store.Edits

namespace MediaLibrary

open Std

namespace Store

variable {s : Store}

/-! ### Operations in step -/

/-- An answer, and what is kept of the store besides its indices. -/
def plainly {α : Type} (result : Except StoreError (α × Store)) :
    Except StoreError (α × PlainStore) :=
  result.map fun (a, s) => (a, s.plain)

/-- Two results agree: the store that comes out is sound, and without its indices it is what
the other result holds. -/
structure InStep {α : Type} (result : Except StoreError (α × Store))
    (plain : Except StoreError (α × PlainStore)) : Prop where
  same : plainly result = plain
  sound : ∀ (a : α) (s : Store), result = .ok (a, s) → s.Sound

theorem InStep.refused {α : Type} (e : StoreError) :
    InStep (α := α) (.error e) (.error e) :=
  ⟨rfl, fun _ _ h => by simp at h⟩

theorem InStep.done {α : Type} {a : α} {s : Store} {p : PlainStore} (h : s.Sound)
    (hp : s.plain = p) : InStep (.ok (a, s)) (.ok (a, p)) :=
  ⟨by rw [← hp]; rfl, fun _ _ heq => by cases heq; exact h⟩

/-- What is answered with may be told in other words. -/
theorem InStep.map {α β : Type} {result : Except StoreError (α × Store)}
    {plain : Except StoreError (α × PlainStore)} (h : InStep result plain) (f : α → β) :
    InStep (result.map fun (a, s) => (f a, s)) (plain.map fun (a, p) => (f a, p)) := by
  obtain ⟨rfl, hsound⟩ := h
  cases result with
  | error e => exact .refused e
  | ok answer => exact .done (hsound answer.1 answer.2 rfl) rfl

/-- Only the highest identifier cannot be given away. -/
theorem reserve_eq (s : Store) (id : RecordId) :
    s.reserve id = if id.toNat + 1 = UInt64.size then .error (.idOutOfRange id)
      else .ok { s with nextId := if id < s.nextId then s.nextId else id + 1 } := by
  have hid := id.toNat_lt_size
  have hnext := s.nextId.toNat_lt_size
  unfold reserve
  by_cases hlt : id < s.nextId
  · have hlt' := UInt64.lt_iff_toNat_lt.mp hlt
    rw [if_pos hlt, if_neg (by omega), if_pos hlt]
  · rw [if_neg hlt, if_neg hlt]
    by_cases hsize : id.toNat + 1 < UInt64.size
    · rw [if_pos hsize, if_neg (by omega)]
    · rw [if_neg hsize, if_pos (by omega)]

theorem insert_eq (s : Store) (r : Record) :
    s.insert r =
      if r.path.isEmpty then .error .emptyPath
      else
        let id := if r.id = 0 then s.nextId else r.id
        (s.reserve id).map fun s => (id, s.put { r with id }) := by
  unfold insert
  cases r.path.isEmpty
  · rfl
  · rfl

/-- A record under an identifier that was given away before is not refused. -/
theorem insert_of_lt {r : Record} (hpath : r.path.isEmpty = false) (hid : r.id ≠ 0)
    (hlt : r.id < s.nextId) : s.insert r = .ok (r.id, s.put r) := by
  have hreserve : s.reserve r.id = .ok s := if_pos hlt
  rw [insert_eq, hpath]
  simp only [Bool.false_eq_true, if_false, if_neg hid]
  rw [hreserve]
  rfl

/-- A record that is kept may take the path of another one, which is removed. -/
theorem Sound.insert_moved (h : s.Sound) {missing found : RecordId} {record destination : Record}
    (hrecord : s.get? missing = some record) (hdestination : s.get? found = some destination) :
    let moved := { record with path := destination.path, flags := destination.flags }
    (s.remove found).2.insert moved = .ok (moved.id, (s.remove found).2.put moved) := by
  intro moved
  obtain ⟨_, _, hne, hlt⟩ := h.kept hrecord
  obtain ⟨_, hpath, _, _⟩ := h.kept hdestination
  rw [← nextId_remove s found] at hlt
  exact insert_of_lt (r := moved) hpath hne hlt

private theorem Sound.insertAt_inStep (h : s.Sound) {r : Record}
    (hpath : r.path.isEmpty = false) (hid : r.id ≠ 0) :
    InStep ((s.reserve r.id).map fun s => (r.id, s.put r))
      (if r.id.toNat + 1 = UInt64.size then .error (.idOutOfRange r.id)
        else .ok (r.id, { s.plain with
          records := s.records.insert r.id r
          nextId := if r.id < s.nextId then s.nextId else r.id + 1 })) := by
  have heq := reserve_eq s r.id
  split
  · rename_i hsize
    rw [if_pos hsize] at heq
    rw [heq]
    exact .refused _
  · rename_i hsize
    rw [if_neg hsize] at heq
    obtain ⟨hsound, _, _, hbelow⟩ := h.reserve heq
    rw [heq]
    refine .done (hsound.put hpath hid hbelow) ?_
    rw [plain, records_put, definitions_put, nextId_put]
    rfl

theorem Sound.insert_inStep (h : s.Sound) (r : Record) :
    InStep (s.insert r) (s.plain.insert r) := by
  rw [insert_eq, PlainStore.insert]
  by_cases hempty : r.path.isEmpty
  · simp only [hempty, if_true]
    exact .refused .emptyPath
  · simp only [hempty, Bool.false_eq_true, if_false]
    have hid : (if r.id = 0 then s.nextId else r.id) ≠ 0 := by
      split
      · exact h.next
      · assumption
    exact h.insertAt_inStep (r := { r with id := if r.id = 0 then s.nextId else r.id })
      (by simpa using hempty) hid

theorem Sound.remove_inStep (h : s.Sound) (id : RecordId) :
    InStep (.ok (s.remove id)) (.ok (s.plain.remove id)) := by
  have hplain : (s.remove id).2.plain = (s.plain.remove id).2 := by
    rw [plain, records_remove, definitions_remove, nextId_remove]
    rfl
  exact .done (h.remove id) hplain

theorem Sound.setValues_inStep (h : s.Sound) (ids : List RecordId) (property : String)
    (values : List Value) :
    InStep (s.setValues ids property values) (s.plain.setValues ids property values) := by
  have heq : s.setValues ids property values =
      ((ExtTreeSet.ofList ids compare).toList.mapM s.require).map fun records =>
        (records.length, s.putEdited (·.setValues property values) records) := by
    unfold setValues
    cases (ExtTreeSet.ofList ids compare).toList.mapM s.require <;> rfl
  rw [heq, mapM_require, PlainStore.setValues, show s.plain.records = s.records from rfl]
  cases hfind : (ExtTreeSet.ofList ids compare).toList.find? (!s.records.contains ·) with
  | some id => exact .refused _
  | none =>
      have hall : ∀ id ∈ (ExtTreeSet.ofList ids compare).toList, s.records.contains id := by
        intro id hid
        simpa using List.find?_eq_none.mp hfind id hid
      show InStep (.ok ((s.recordsOf (ExtTreeSet.ofList ids compare)).length,
        s.putEdited _ (s.recordsOf (ExtTreeSet.ofList ids compare)))) _
      rw [length_recordsOf hall, h.recordsOf_eq]
      obtain ⟨hsound, hplain⟩ := h.putEdited_filter (keepsFile_setValues property values) _
      exact .done hsound hplain

/-- Records that hold a property are found by the index and edited. -/
private theorem Sound.rewrite_inStep (h : s.Sound) (property : String) {edit : Record → Record}
    (hedit : KeepsFile edit) :
    InStep
      (.ok ((s.recordsOf (s.withProperty property)).length,
        s.putEdited edit (s.recordsOf (s.withProperty property))))
      (.ok ((s.plain.idsWhere (PlainStore.holds property)).length,
        s.plain.edit (PlainStore.holds property) edit)) := by
  rw [h.withProperty_eq, h.recordsOf_setWhere, PlainStore.idsWhere, List.length_map]
  obtain ⟨hsound, hplain⟩ := h.putEdited_filter hedit (PlainStore.holds property)
  exact .done hsound hplain

theorem Sound.applyChange_inStep (h : s.Sound) (change : CatalogChange) :
    InStep (s.applyChange change) (s.plain.applyChange change) := by
  cases change with
  | defined name => exact .done h rfl
  | multiplicity name multiple =>
      rw [applyChange, PlainStore.applyChange, h.maxValueCount_eq]
      split
      · exact .done h rfl
      · exact .refused _
  | renamed old new => exact h.rewrite_inStep old (keepsFile_renameIn old new)
  | removed name => exact h.rewrite_inStep name (keepsFile_setValues name [])

/-! ### What is left by an operation that is carried out -/

theorem Sound.of_insert {s' : Store} {r : Record} {id : RecordId} (h : s.Sound)
    (hs : s.insert r = .ok (id, s')) :
    s'.Sound ∧ s'.definitions = s.definitions ∧
      s'.records = s.records.insert id { r with id } := by
  obtain ⟨hsame, hsound⟩ := h.insert_inStep r
  rw [hs] at hsame
  have hsame : .ok (id, s'.plain) = s.plain.insert r := hsame
  unfold PlainStore.insert at hsame
  dsimp only at hsame
  split at hsame
  · cases hsame
  · generalize (if r.id = 0 then s.plain.nextId else r.id) = given at hsame
    split at hsame
    · cases hsame
    · obtain ⟨hid, hplain⟩ := Prod.mk.inj (Except.ok.inj hsame)
      rw [← hid] at hplain
      exact ⟨hsound id s' hs, congrArg PlainStore.definitions hplain,
        congrArg PlainStore.records hplain⟩

theorem Sound.of_setValues {s' : Store} {ids : List RecordId} {property : String}
    {values : List Value} {count : Nat} (h : s.Sound)
    (hs : s.setValues ids property values = .ok (count, s')) :
    s'.Sound ∧ ∃ which, s'.plain = s.plain.edit which (·.setValues property values) := by
  obtain ⟨hsame, hsound⟩ := h.setValues_inStep ids property values
  rw [hs] at hsame
  have hsame : .ok (count, s'.plain) = s.plain.setValues ids property values := hsame
  unfold PlainStore.setValues at hsame
  dsimp only at hsame
  split at hsame
  · cases hsame
  · exact ⟨hsound count s' hs, _, congrArg Prod.snd (Except.ok.inj hsame)⟩

theorem Sound.plain_of_applyChange {s' : Store} {change : CatalogChange} {count : Nat}
    (h : s.Sound) (hs : s.applyChange change = .ok (count, s')) :
    .ok (count, s'.plain) = s.plain.applyChange change := by
  rw [← (h.applyChange_inStep change).same, hs]
  rfl

theorem Sound.of_applyChange {s' : Store} {change : CatalogChange} {count : Nat} (h : s.Sound)
    (hs : s.applyChange change = .ok (count, s')) :
    s'.Sound ∧ s'.definitions = s.definitions := by
  refine ⟨(h.applyChange_inStep change).sound count s' hs, ?_⟩
  have hsame := h.plain_of_applyChange hs
  unfold PlainStore.applyChange at hsame
  split at hsame
  · exact congrArg (fun answer => answer.2.definitions) (Except.ok.inj hsame)
  · dsimp only at hsame
    split at hsame
    · exact congrArg (fun answer => answer.2.definitions) (Except.ok.inj hsame)
    · cases hsame
  · exact congrArg (fun answer => answer.2.definitions) (Except.ok.inj hsame)
  · exact congrArg (fun answer => answer.2.definitions) (Except.ok.inj hsame)

/-- **Every operation keeps a sound store in step with the plain one.** -/
theorem Sound.perform_inStep (h : s.Sound) (operation : StoreOperation) :
    InStep (s.perform operation) (s.plain.perform operation) := by
  cases operation with
  | insert r => exact (h.insert_inStep r).map StoreAnswer.stored
  | remove id => exact (h.remove_inStep id).map StoreAnswer.existed
  | setValues ids property values =>
      exact (h.setValues_inStep ids property values).map StoreAnswer.changed
  | applyChange change => exact (h.applyChange_inStep change).map StoreAnswer.changed
  | saveDefinition d => exact .done (h.saveDefinition d) rfl
  | deleteDefinition name => exact .done (h.deleteDefinition name) rfl
  | clear => exact .done sound_empty rfl
  | reopen => exact .done (h.ofParts_eq.symm ▸ h) (by rw [h.ofParts_eq])

/-! ### Runs -/

theorem Sound.after (h : s.Sound) (operation : StoreOperation) : (s.after operation).Sound := by
  have hstep := (h.perform_inStep operation).sound
  unfold Store.after
  split
  · rename_i answer s' heq
    exact hstep answer s' heq
  · exact h

theorem Sound.plain_after (h : s.Sound) (operation : StoreOperation) :
    (s.after operation).plain = s.plain.after operation := by
  have hsame := (h.perform_inStep operation).same
  unfold Store.after PlainStore.after
  rw [← hsame]
  cases s.perform operation <;> rfl

private theorem run_inStep (operations : List StoreOperation) :
    ∀ {s : Store}, s.Sound → (operations.foldl Store.after s).Sound ∧
      (operations.foldl Store.after s).plain = operations.foldl PlainStore.after s.plain := by
  induction operations with
  | nil => intro s h; exact ⟨h, rfl⟩
  | cons operation rest ih =>
      intro s h
      rw [List.foldl_cons, List.foldl_cons, ← h.plain_after operation]
      exact ih (h.after operation)

/-- **Every reachable store is sound.** -/
theorem sound_afterAll (operations : List StoreOperation) : (afterAll operations).Sound :=
  (run_inStep operations sound_empty).1

theorem plain_afterAll (operations : List StoreOperation) :
    (afterAll operations).plain = PlainStore.afterAll operations :=
  (run_inStep operations sound_empty).2

/-! ### Questions about a store -/

/-- A store answers as a pass over the records of a plain store does. -/
structure Answers (s : Store) (p : PlainStore) : Prop where
  get : ∀ id, s.get? id = p.records[id]?
  contains : ∀ id, s.contains id = p.records.contains id
  size : s.size = p.toList.length
  toList : s.toList = p.toList
  /-- Records are listed in the order of their identifiers, each under its own. -/
  ascending : p.toList.Pairwise (·.id < ·.id)
  listed : ∀ r, r ∈ p.toList ↔ p.records[r.id]? = some r
  /-- There is an entry for a tag if a record has it, and it lists the records that do. -/
  tagEntry : ∀ property value, s.tags[(⟨property, value⟩ : Tag)]? =
    if p.idsWhere (value ∈ ·.values property) = [] then none
    else some ⟨p.idsWhere (value ∈ ·.values property)⟩
  /-- There is an entry for a term if a record has it, and it lists the records that do. -/
  termEntry : ∀ term : String, s.terms[term]? =
    if p.idsWhere (term ∈ ·.terms) = [] then none else some ⟨p.idsWhere (term ∈ ·.terms)⟩
  /-- An entry is ascending, so it lists no record twice. -/
  entryAscending : ∀ holds, (p.idsWhere holds).Pairwise (· < ·)
  withTag : ∀ property value,
    s.withTag property value = p.setWhere (value ∈ ·.values property)
  withTags : ∀ property values, values ≠ [] →
    s.withTags property values = p.setWhere fun r => values.all (· ∈ r.values property)
  withProperty : ∀ property, s.withProperty property = p.setWhere (PlainStore.holds property)
  valueCounts : ∀ property, s.valueCounts property = p.valueCounts property
  maxValueCount : ∀ property, s.maxValueCount property = p.maxValueCount property
  withTerm : ∀ term, s.withTerm term = p.setWhere (term ∈ ·.terms)
  withAllTerms : ∀ terms, terms ≠ [] →
    s.withTerms terms .all = p.setWhere fun r => terms.all (· ∈ r.terms)
  withAnyTerm : ∀ terms, terms ≠ [] →
    s.withTerms terms .any = p.setWhere fun r => terms.any (· ∈ r.terms)

theorem Sound.answers (h : s.Sound) : s.Answers s.plain where
  get _ := rfl
  contains _ := rfl
  size := by
    rw [size, PlainStore.toList, List.length_map, ExtTreeMap.length_toList]
    rfl
  toList := rfl
  ascending := h.toList_ascending
  listed _ := h.mem_toList
  tagEntry := h.tag_entry
  termEntry := h.term_entry
  entryAscending := h.idsWhere_ascending
  withTag := h.withTag_eq
  withTags property _ hne := h.withTags_eq property hne
  withProperty := h.withProperty_eq
  valueCounts := h.valueCounts_eq
  maxValueCount := h.maxValueCount_eq
  withTerm := h.withTerm_eq
  withAllTerms _ hne := h.withTerms_all_eq hne
  withAnyTerm terms _ := h.withTerms_any_eq terms

/-- **The store refines the store without indices.**  After any run from the empty store,
what is kept besides the indices is what the same run makes of a plain store, every question
is answered by a pass over it, and every further operation answers the same on both, or is
refused on both for the same reason. -/
theorem afterAll_refines (operations : List StoreOperation) :
    (afterAll operations).plain = PlainStore.afterAll operations ∧
      (afterAll operations).Answers (PlainStore.afterAll operations) ∧
      ∀ operation, plainly ((afterAll operations).perform operation) =
        (PlainStore.afterAll operations).perform operation := by
  have h := sound_afterAll operations
  rw [← plain_afterAll]
  exact ⟨rfl, h.answers, fun operation => (h.perform_inStep operation).same⟩

end Store

end MediaLibrary
