/-
What the lists in an index hold.

An entry of an index is kept as an ascending list, and the order is used twice.  An identifier is
looked for by halving, which finds it, or the position where it belongs, only if the list ascends:
`Brackets` is what stays true while the range is narrowed.  And a list is determined by its
members: two ascending lists with the same members are the same list.  Putting an identifier in
its position and taking it out keep the order, so every list that `insert` and `remove` make from
the empty one is the ascending list of what was put in and not taken out again.
-/
import MediaLibrary.Proofs.OrderedMap
import MediaLibrary.Store.IdList

namespace MediaLibrary.IdList

/-- Every identifier of a list is below all that follow it. -/
abbrev Ascending (ids : List RecordId) : Prop := ids.Pairwise (· < ·)

variable {ids : List RecordId} {id other : RecordId} {start size position : Nat}

/-! ### Finding the place of an identifier -/

/-- A list is what stands before one of its identifiers, the identifier, and what stands behind. -/
theorem take_append_cons_drop (hother : ids[position]? = some other) :
    ids.take position ++ other :: ids.drop (position + 1) = ids := by
  obtain ⟨hlt, heq⟩ := List.getElem?_eq_some_iff.mp hother
  rw [← heq, List.getElem_cons_drop, List.take_append_drop]

/-- In an ascending list, an identifier is above all before it and below all behind it. -/
theorem Ascending.around (h : Ascending ids) (hother : ids[position]? = some other) :
    (∀ a ∈ ids.take position, a < other) ∧ ∀ a ∈ ids.drop (position + 1), other < a := by
  rw [← take_append_cons_drop hother] at h
  obtain ⟨_, hbehind, hacross⟩ := List.pairwise_append.mp h
  exact ⟨fun a ha => hacross a ha other (by simp), (List.pairwise_cons.mp hbehind).1⟩

/-- What is below an identifier of an ascending list is below all that stands from there on. -/
theorem Ascending.lt_of_mem_drop (h : Ascending ids) (hother : ids[position]? = some other)
    (hlt : id < other) {a : RecordId} (ha : a ∈ ids.drop position) : id < a := by
  rw [List.drop_eq_getElem?_toList_append, hother] at ha
  rcases List.mem_cons.mp ha with rfl | ha
  · exact hlt
  · exact UInt64.lt_trans hlt ((h.around hother).2 a ha)

/-- What stands before a range is below an identifier, and what stands behind it is above. -/
structure Brackets (ids : List RecordId) (id : RecordId) (start stop : Nat) : Prop where
  below : ∀ a ∈ ids.take start, a < id
  above : ∀ a ∈ ids.drop stop, id < a

/-- Brackets around an identifier are narrowed until a single position is left between them. -/
theorem Brackets.narrow (h : Ascending ids) (hbrackets : Brackets ids id start (start + size))
    (hpos : 0 < size) (hle : start + size ≤ ids.length) :
    narrow ids id start size < ids.length ∧
      Brackets ids id (narrow ids id start size) (narrow ids id start size + 1) := by
  fun_induction IdList.narrow ids id start size with
  | case1 start size hone =>
      obtain rfl : size = 1 := by omega
      exact ⟨by omega, hbrackets⟩
  | case2 start size hmany middle hbeyond ih =>
      have hmiddle : middle = start + size / 2 := rfl
      obtain ⟨other, hother, hlt⟩ := (Option.any_eq_true _ _).mp hbeyond
      refine ih ⟨hbrackets.below, fun a ha => ?_⟩ (by omega) (by omega)
      exact h.lt_of_mem_drop hother (of_decide_eq_true hlt)
        (List.drop_subset_drop_left ids (by omega) ha)
  | case3 start size hmany middle hbeyond ih =>
      have hmiddle : middle = start + size / 2 := rfl
      obtain ⟨other, hother⟩ : ∃ other, ids[middle]? = some other :=
        ⟨_, List.getElem?_eq_getElem (by omega)⟩
      have hle : other ≤ id := by simpa [hother] using hbeyond
      have hstop : middle + (size - size / 2) = start + size := by omega
      refine ih ⟨fun a ha => ?_, hstop ▸ hbrackets.above⟩ (by omega) (by omega)
      exact UInt64.lt_of_lt_of_le ((h.around hother).1 a ha) hle

/-- **An identifier that is found stands where it is found**, be the list in order or not. -/
theorem getElem?_of_search (h : search ids id = .held position) : ids[position]? = some id := by
  unfold search at h
  dsimp only at h
  split at h
  · cases h
  · rename_i other hother
    split at h
    · rename_i heq
      cases h
      rw [hother, heq]
    · cases h

/-- **An identifier that is not found belongs where it is missing**: in an ascending list, what
stands before is below it, and what stands behind is above. -/
theorem Ascending.brackets_of_search (h : Ascending ids)
    (hsearch : search ids id = .missing position) : Brackets ids id position position := by
  by_cases hempty : ids = []
  · subst hempty
    exact ⟨by simp, by simp⟩
  have hall : Brackets ids id 0 (0 + ids.length) := ⟨by simp, by simp⟩
  obtain ⟨hlt, hbrackets⟩ := hall.narrow h (List.length_pos_iff.mpr hempty) (by omega)
  unfold search at hsearch
  dsimp only at hsearch
  generalize IdList.narrow ids id 0 ids.length = last at *
  obtain ⟨other, hother⟩ : ∃ other, ids[last]? = some other := ⟨_, List.getElem?_eq_getElem hlt⟩
  rw [hother] at hsearch
  by_cases heq : other = id
  · simp [heq] at hsearch
  by_cases hless : other < id
  · obtain rfl : last + 1 = position := by simpa [heq, hless] using hsearch
    refine ⟨fun a ha => ?_, hbrackets.above⟩
    rw [List.take_add_one, hother] at ha
    rcases List.mem_append.mp ha with ha | ha
    · exact hbrackets.below a ha
    · rwa [List.mem_singleton.mp ha]
  · obtain rfl : last = position := by simpa [heq, hless] using hsearch
    have hgreater : id < other := UInt64.lt_of_le_of_ne (UInt64.not_lt.mp hless) (Ne.symm heq)
    exact ⟨hbrackets.below, fun a => h.lt_of_mem_drop hother hgreater⟩

/-- What is missing from an ascending list is none of its members. -/
theorem Ascending.notMem_of_search (h : Ascending ids)
    (hsearch : search ids id = .missing position) : id ∉ ids := by
  intro hid
  have hbrackets := h.brackets_of_search hsearch
  rw [← List.take_append_drop position ids] at hid
  rcases List.mem_append.mp hid with hid | hid
  · exact UInt64.lt_irrefl _ (hbrackets.below id hid)
  · exact UInt64.lt_irrefl _ (hbrackets.above id hid)

/-! ### Changing a list -/

theorem mem_insert {l : IdList} {id a : RecordId} :
    a ∈ (l.insert id).2.ids ↔ a = id ∨ a ∈ l.ids := by
  unfold insert
  split
  · rename_i position hheld
    have hmem : id ∈ l.ids := List.mem_of_getElem? (getElem?_of_search hheld)
    constructor
    · exact Or.inr
    · rintro (rfl | ha)
      · exact hmem
      · exact ha
  · rename_i position _
    have hsplit : a ∈ l.ids ↔ a ∈ l.ids.take position ∨ a ∈ l.ids.drop position := by
      rw [← List.mem_append, List.take_append_drop]
    simp only [List.mem_append, List.mem_cons, hsplit]
    exact or_left_comm

/-- A new identifier is told from one that is listed. -/
theorem insert_fst_iff {l : IdList} (h : Ascending l.ids) :
    (l.insert id).1 = true ↔ id ∉ l.ids := by
  unfold insert
  split
  · rename_i hheld
    simp [List.mem_of_getElem? (getElem?_of_search hheld)]
  · rename_i hmissing
    simp [h.notMem_of_search hmissing]

theorem insert_ascending {l : IdList} (h : Ascending l.ids) (id : RecordId) :
    Ascending (l.insert id).2.ids := by
  unfold insert
  split
  · exact h
  · rename_i position hmissing
    have hbrackets := h.brackets_of_search hmissing
    refine List.pairwise_append.mpr ⟨h.sublist (List.take_sublist _ _), ?_, ?_⟩
    · exact List.pairwise_cons.mpr ⟨hbrackets.above, h.sublist (List.drop_sublist _ _)⟩
    · intro a ha b hb
      have hlt := hbrackets.below a ha
      rcases List.mem_cons.mp hb with rfl | hb
      · exact hlt
      · exact UInt64.lt_trans hlt (hbrackets.above b hb)

/-- An identifier that is no member is not taken out, be the list in order or not. -/
theorem remove_of_notMem {l : IdList} (h : id ∉ l.ids) : l.remove id = (false, l) := by
  unfold remove
  split
  · rename_i hheld
    exact absurd (List.mem_of_getElem? (getElem?_of_search hheld)) h
  · rfl

/-- An ascending list holds an identifier once, so taking it out leaves the others. -/
theorem mem_remove {l : IdList} (h : Ascending l.ids) {id a : RecordId} :
    a ∈ (l.remove id).2.ids ↔ a ≠ id ∧ a ∈ l.ids := by
  unfold remove
  split
  · rename_i position hheld
    have hid := getElem?_of_search hheld
    obtain ⟨hbefore, hbehind⟩ := h.around hid
    have hsplit : a ∈ l.ids ↔ a ∈ l.ids.take position ∨ a = id ∨ a ∈ l.ids.drop (position + 1) := by
      rw [← List.mem_cons, ← List.mem_append, take_append_cons_drop hid]
    rw [List.eraseIdx_eq_take_drop_succ, List.mem_append, hsplit]
    constructor
    · rintro (ha | ha)
      · exact ⟨UInt64.ne_of_lt (hbefore a ha), Or.inl ha⟩
      · exact ⟨(UInt64.ne_of_lt (hbehind a ha)).symm, Or.inr (Or.inr ha)⟩
    · rintro ⟨hne, ha | rfl | ha⟩
      · exact Or.inl ha
      · exact absurd rfl hne
      · exact Or.inr ha
  · rename_i hmissing
    have hmem := h.notMem_of_search hmissing
    constructor
    · exact fun ha => ⟨fun hc => hmem (hc ▸ ha), ha⟩
    · exact fun ha => ha.2

/-- An identifier that is taken out is told from one that is not listed. -/
theorem remove_fst_iff {l : IdList} (h : Ascending l.ids) :
    (l.remove id).1 = true ↔ id ∈ l.ids := by
  unfold remove
  split
  · rename_i hheld
    simp [List.mem_of_getElem? (getElem?_of_search hheld)]
  · rename_i hmissing
    simp [h.notMem_of_search hmissing]

theorem remove_ascending {l : IdList} (h : Ascending l.ids) (id : RecordId) :
    Ascending (l.remove id).2.ids := by
  unfold remove
  split
  · exact h.sublist (List.eraseIdx_sublist _ _)
  · exact h

/-! ### A list is determined by its members -/

theorem Ascending.eq_of_mem_iff {xs ys : List RecordId} (hx : Ascending xs) (hy : Ascending ys)
    (h : ∀ id, id ∈ xs ↔ id ∈ ys) : xs = ys :=
  OrderedMap.eq_of_mem_iff (fun _ _ hab hba => UInt64.lt_irrefl _ (UInt64.lt_trans hab hba)) hx hy h

end MediaLibrary.IdList
