/-
Records that are tagged.

Setting the values of a property is done in three steps: the values are checked once for all
records, all records are found, and then each of them is written.  `Tags` says what all of that
comes to, record by record: those that are listed have exactly the checked values, and nothing
else has changed, neither in them nor in any other record.

A record that shares a value or a term with another one shares an entry of an index with it.
Both indices list afterwards what a pass over the records finds.
-/
import MediaLibrary.Proofs.Library.Sound
import MediaLibrary.Proofs.Store.Identifiers
import MediaLibrary.Proofs.Store.Tagged

namespace MediaLibrary.Library

open LibraryM

variable {l l' : Library} {ids ids' : List RecordId} {property : String} {raw values : List Value}
  {count : Nat}

/-- What giving values of a property to some records does to a library. -/
structure Tags (ids : List RecordId) (property : String) (values : List Value)
    (l l' : Library) : Prop where
  /-- A record that is listed was there, and has the values now. -/
  listed : ∀ id ∈ ids, ∃ r r', l.store.get? id = some r ∧ l'.store.get? id = some r' ∧
    r.Tagged property values r'
  others : ∀ id, id ∉ ids → l'.store.get? id = l.store.get? id
  nextId : l'.store.nextId = l.store.nextId
  /-- Both indices follow the records. -/
  answers : l'.store.Answers l'.store.plain
  catalog : l'.catalog = l.catalog
  layers : l'.layers = l.layers

/-! ### Setting values -/

/-- Values that pass the check are set in records that are there. -/
theorem setTag_eq {store : Store} (hvalues : l.catalog.validate property raw = .ok values)
    (hset : l.store.setValues ids property values = .ok (count, store)) :
    setTag ids property raw l =
      .ok count { l with store, parameters := (l.parameters.notifyModified property true).2 } := by
  have hensures : Ensures (setTag ids property raw) l (fun answer l' => answer = count ∧
      l' = { l with store, parameters := (l.parameters.notifyModified property true).2 })
      fun _ => False := by
    unfold setTag
    refine ensures_bind.mpr (ensures_get.mpr (ensures_bind.mpr ?_))
    refine ensures_check (fun checked hchecked => ?_) fun e he => by cases hvalues.symm.trans he
    cases hvalues.symm.trans hchecked
    refine ensures_bind.mpr (ensures_check (fun answer hanswer => ?_) fun e he => ?_)
    · cases hset.symm.trans hanswer
      exact ⟨rfl, rfl⟩
    · cases hset.symm.trans he
  obtain ⟨answer, l', hrun, rfl, rfl⟩ := hensures.exists_ok
  exact hrun

/-- A call that is not refused has done just that. -/
theorem exists_of_setTag (hrun : setTag ids property raw l = .ok count l') :
    ∃ values store, l.catalog.validate property raw = .ok values ∧
      l.store.setValues ids property values = .ok (count, store) ∧
      l' = { l with store, parameters := (l.parameters.notifyModified property true).2 } := by
  have hensures : Ensures (setTag ids property raw) l (fun count l' => ∃ values store,
      l.catalog.validate property raw = .ok values ∧
      l.store.setValues ids property values = .ok (count, store) ∧
      l' = { l with store, parameters := (l.parameters.notifyModified property true).2 })
      fun _ => True :=
    ensures_setTag trivial fun values _ store hvalues hset => ⟨values, store, hvalues, hset, rfl⟩
  exact hensures.of_ok hrun

/-- **What setting values leaves.** -/
theorem Sound.tags (h : l.Sound) {store : Store}
    (hset : l.store.setValues ids property values = .ok (count, store)) :
    Tags ids property values l
      { l with store, parameters := (l.parameters.notifyModified property true).2 } := by
  obtain ⟨hall, _, hsound, hplain⟩ := h.store.setValues_leaves hset
  have hget : ∀ id, store.get? id = (l.store.get? id).map fun r =>
      if ids.contains r.id then r.setValues property values else r := by
    intro id
    show store.plain.records[id]? = _
    rw [hplain, PlainStore.getElem?_edit]
    rfl
  have hkeyed : ∀ {id : RecordId} {r : Record}, l.store.get? id = some r → r.id = id :=
    fun hr => h.store.keyed _ _ hr
  constructor
  case listed =>
    intro id hid
    obtain ⟨r, hr⟩ := Store.exists_of_contains (hall id hid)
    have hr : l.store.get? id = some r := hr
    refine ⟨r, r.setValues property values, hr, ?_, r.tagged_setValues property values⟩
    rw [hget, hr, Option.map_some, hkeyed hr, if_pos (List.contains_iff_mem.mpr hid)]
  case others =>
    intro id hid
    rw [hget]
    cases hr : l.store.get? id with
    | none => rfl
    | some r =>
        rw [Option.map_some, hkeyed hr, if_neg fun hc => hid (List.contains_iff_mem.mp hc)]
  case nextId => exact congrArg PlainStore.nextId hplain
  case answers => exact hsound.answers
  case catalog => rfl
  case layers => exact Parameters.layers_notifyModified property true

/-- **Records that are tagged hold the checked values.**  After any run, refused operations
included, a call that is not refused answers with the number of distinct identifiers.  The
records that are listed have the values that passed the check, each of them once, and no entry
if there are none; they are as they were otherwise, and so is every other record and the next
identifier.  The order in which records are listed does not matter, nor how often.  And the same
call once more gives the same answer and leaves the store as it is. -/
theorem tagged_records_hold_values (operations : List LibraryOperation)
    (hrun : setTag ids property raw (afterAll operations) = .ok count l') :
    let l := afterAll operations
    count = ids.eraseDups.length ∧
      (∃ values, l.catalog.validate property raw = .ok values ∧ Tags ids property values l l') ∧
      (∀ ids', (∀ id, id ∈ ids' ↔ id ∈ ids) → setTag ids' property raw l = .ok count l') ∧
      ∃ l'', setTag ids property raw l' = .ok count l'' ∧ l''.store = l'.store := by
  intro l
  have h : l.Sound := sound_afterAll operations
  obtain ⟨values, store, hvalues, hset, rfl⟩ := exists_of_setTag hrun
  obtain ⟨_, hcount, _, _⟩ := h.store.setValues_leaves hset
  let tagged : Library :=
    { l with store, parameters := (l.parameters.notifyModified property true).2 }
  have hagain : tagged.store.setValues ids property values = .ok (count, store) :=
    h.store.setValues_again hset
  refine ⟨hcount, ⟨values, hvalues, h.tags hset⟩, fun ids' hsame => ?_, _,
    setTag_eq (l := tagged) hvalues hagain, rfl⟩
  exact setTag_eq hvalues ((Store.setValues_congr hsame).trans hset)

/-- One of two records that share a value loses it and gets two others, of which one was given
twice; the record that is not listed keeps it. -/
theorem tagged_twice_is_tagged_once :
    let calm : Properties := .ofList [("mood", [.str "calm"])] compare
    let operations : List LibraryOperation :=
      [.defineProperty "mood" .str true none none,
        .importRecords [{ path := "/a.mkv", properties := calm },
          { path := "/b.mkv", properties := calm }, { path := "/c.mkv" }]]
    let l := afterAll operations
    let raw : List Value := [.str "loud", .str "wild", .str "loud"]
    ∃ l', setTag [3, 1, 3] "mood" raw l = .ok 2 l' ∧
      Tags [3, 1, 3] "mood" [.str "loud", .str "wild"] l l' ∧
      setTag [1, 3] "mood" raw l = .ok 2 l' ∧
      ∃ l'', setTag [3, 1, 3] "mood" raw l' = .ok 2 l'' ∧ l''.store = l'.store := by
  intro calm operations l raw
  have hanswer : (Checked.answer? (setTag [3, 1, 3] "mood" raw l)).map (·.1) = some 2 := by
    decide +kernel
  obtain ⟨⟨_, l'⟩, hanswer, rfl⟩ := Option.map_eq_some_iff.mp hanswer
  have hrun := Checked.eq_ok_of_answer? hanswer
  obtain ⟨_, ⟨values, hvalues, htags⟩, hsame, hagain⟩ :=
    tagged_records_hold_values operations hrun
  have hchecked : l.catalog.validate "mood" raw = .ok [.str "loud", .str "wild"] := by
    decide +kernel
  cases hvalues.symm.trans hchecked
  exact ⟨l', hrun, htags, hsame [1, 3] (by simp [or_comm]), hagain⟩

end MediaLibrary.Library
