/-
Records that are stored one after the other.

A batch of records is not stored in one step.  `Stores` follows it record by record, and
`Stops` says that it came to a record that the store refused, with those before it stored.

A store refuses a record for one of two reasons: the record has no path, or it would get the
highest identifier of all, after which there is none.  Which identifier comes next can be
computed without storing anything, so it is known beforehand whether a batch will be stored
to its end.
-/
import MediaLibrary.Proofs.Checked
import MediaLibrary.Proofs.Store.Refinement

namespace MediaLibrary.Store

variable {s s' : Store} {r : Record}

/-! ### One record -/

/-- The identifier under which a record is stored. -/
def givenId (s : Store) (r : Record) : RecordId := if r.id = 0 then s.nextId else r.id

/-- The store can take the record. -/
def Takes (s : Store) (r : Record) : Prop :=
  r.path.isEmpty = false ∧ (s.givenId r).toNat + 1 ≠ UInt64.size

/-- The number that is next for an identifier once a record is stored. -/
def nextAfter (next : Nat) (r : Record) : Nat :=
  if r.id = 0 then next + 1 else max next (r.id.toNat + 1)

/-- The store that will assign the identifiers after a given one. -/
def reserved (s : Store) (id : RecordId) : Store :=
  { s with nextId := if id < s.nextId then s.nextId else id + 1 }

theorem insert_of_takes (h : s.Takes r) :
    s.insert r =
      .ok (s.givenId r, (s.reserved (s.givenId r)).put { r with id := s.givenId r }) := by
  obtain ⟨hpath, hlast⟩ := h
  have hreserve := reserve_eq s (s.givenId r)
  rw [if_neg hlast] at hreserve
  rw [insert_eq, hpath]
  show (s.reserve (s.givenId r)).map
    (fun s' => (s.givenId r, s'.put { r with id := s.givenId r })) = _
  rw [hreserve]
  rfl

theorem not_takes_of_insert {e : StoreError} (h : s.insert r = .error e) : ¬s.Takes r := by
  intro htakes
  rw [insert_of_takes htakes] at h
  cases h

theorem takes_of_insert {answer : RecordId × Store} (h : s.insert r = .ok answer) :
    s.Takes r := by
  rw [insert_eq] at h
  split at h
  · cases h
  · rename_i hpath
    refine ⟨by simpa using hpath, fun hlast => ?_⟩
    have hreserve := reserve_eq s (s.givenId r)
    rw [if_pos hlast] at hreserve
    have h : (s.reserve (s.givenId r)).map
      (fun s' => (s.givenId r, s'.put { r with id := s.givenId r })) = .ok answer := h
    rw [hreserve] at h
    cases h

/-- **What storing a record leaves:** the record among the others, and the next identifier. -/
theorem insert_leaves {id : RecordId} (h : s.insert r = .ok (id, s')) :
    id = s.givenId r ∧ s'.records = s.records.insert id { r with id } ∧
      s'.nextId.toNat = nextAfter s.nextId.toNat r := by
  have htakes := takes_of_insert h
  rw [insert_of_takes htakes] at h
  obtain ⟨rfl, rfl⟩ := Prod.mk.inj (Except.ok.inj h)
  refine ⟨rfl, records_put _ _, ?_⟩
  have hsucc : (s.givenId r + 1).toNat = (s.givenId r).toNat + 1 := RecordId.toNat_succ htakes.2
  rw [nextId_put, reserved, nextAfter]
  unfold givenId at hsucc ⊢
  by_cases hid : r.id = 0
  · simp only [if_pos hid] at hsucc ⊢
    rw [if_neg (UInt64.lt_irrefl _), hsucc]
  · simp only [if_neg hid] at hsucc ⊢
    split
    · rename_i hbelow
      have hbelow := UInt64.lt_iff_toNat_lt.mp hbelow
      omega
    · rename_i habove
      have habove := UInt64.le_iff_toNat_le.mp (UInt64.not_lt.mp habove)
      rw [hsucc]
      omega

/-! ### One after the other -/

/-- The records are stored one after the other. -/
inductive Stores : Store → List Record → Store → Prop
  | nil (s : Store) : Stores s [] s
  | cons {s s' last : Store} {r : Record} {id : RecordId} {rest : List Record}
      (h : s.insert r = .ok (id, s')) (hrest : Stores s' rest last) : Stores s (r :: rest) last

/-- The records are stored up to one that is refused. -/
def Stops (s : Store) (records : List Record) (last : Store) : Prop :=
  ∃ before r after e, records = before ++ r :: after ∧ Stores s before last ∧
    last.insert r = .error e

namespace Stores

variable {records more : List Record} {last : Store}

theorem append (h : Stores s records s') (hmore : Stores s' more last) :
    Stores s (records ++ more) last := by
  induction h with
  | nil s => exact hmore
  | cons h _ ih => exact .cons h (ih hmore)

theorem stops (h : Stores s records s') (hmore : Stops s' more last) :
    Stops s (records ++ more) last := by
  obtain ⟨before, r, after, e, rfl, hbefore, hrefused⟩ := hmore
  exact ⟨records ++ before, r, after, e, by simp, h.append hbefore, hrefused⟩

/-- Nothing is refused, so every record has a path. -/
theorem path (h : Stores s records last) : ∀ r ∈ records, r.path.isEmpty = false := by
  induction h with
  | nil => simp
  | cons h _ ih => exact List.forall_mem_cons.mpr ⟨(takes_of_insert h).1, ih⟩

theorem nextId (h : Stores s records last) :
    last.nextId.toNat = records.foldl nextAfter s.nextId.toNat := by
  induction h with
  | nil => rfl
  | cons h _ ih => rw [ih, List.foldl_cons, (insert_leaves h).2.2]

/-- What is stored stays. -/
theorem keeps (h : Stores s records last) {id : RecordId} (hid : s.get? id ≠ none) :
    last.get? id ≠ none := by
  induction h with
  | nil => exact hid
  | cons h _ ih =>
      refine ih ?_
      show _ ≠ _
      rw [get?, (insert_leaves h).2.1, OrderedMap.getElem?_insert]
      split
      · exact Option.some_ne_none _
      · exact hid

end Stores

theorem Stops.append {records last} (h : Stops s records last) (more : List Record) :
    Stops s (records ++ more) last := by
  obtain ⟨before, r, after, e, rfl, hbefore, hrefused⟩ := h
  exact ⟨before, r, after ++ more, e, by simp, hbefore, hrefused⟩

/-- Where records have paths and good identifiers of their own, only the highest identifier of
all can be refused. -/
theorem Stops.nextId {records last} (h : Stops s records last)
    (hpath : ∀ r ∈ records, r.path.isEmpty = false)
    (hown : ∀ r ∈ records, r.id ≠ 0 → r.id.toNat + 1 ≠ UInt64.size) :
    last.nextId.toNat + 1 = UInt64.size := by
  obtain ⟨before, r, after, e, rfl, _, hrefused⟩ := h
  have hmem : r ∈ before ++ r :: after := by simp
  have hlast : (last.givenId r).toNat + 1 = UInt64.size :=
    Decidable.byContradiction fun hlast =>
      not_takes_of_insert hrefused ⟨hpath r hmem, hlast⟩
  unfold givenId at hlast
  split at hlast
  · exact hlast
  · rename_i hid
    exact absurd hlast (hown r hmem hid)

/-! ### Edited records -/

private theorem stores_putEdited_of_lt {edit : Record → Record} (hedit : KeepsFile edit)
    (records : List Record) :
    ∀ s : Store, (∀ r ∈ records, r.path.isEmpty = false ∧ r.id ≠ 0 ∧ r.id < s.nextId) →
      Stores s (records.map edit) (s.putEdited edit records) := by
  induction records with
  | nil => exact fun s _ => .nil s
  | cons r rest ih =>
      intro s hrecords
      obtain ⟨hpath, hid, hlt⟩ := hrecords r List.mem_cons_self
      have hput : s.insert (edit r) = .ok ((edit r).id, s.put (edit r)) :=
        insert_of_lt (by rw [hedit.path, hpath]) (by rw [hedit.id]; exact hid)
          (by rw [hedit.id]; exact hlt)
      refine .cons hput (ih _ fun q hq => ?_)
      rw [nextId_put]
      exact hrecords q (List.mem_cons_of_mem r hq)

/-- **Edited records are stored one after the other**, and none of them is refused, for they
were stored before. -/
theorem Sound.stores_putEdited (h : s.Sound) {edit : Record → Record} (hedit : KeepsFile edit)
    {records : List Record} (hrecords : ∀ r ∈ records, s.get? r.id = some r) :
    Stores s (records.map edit) (s.putEdited edit records) :=
  stores_putEdited_of_lt hedit records s fun r hr => (h.kept (hrecords r hr)).2

theorem Sound.stores_of_setValues (h : s.Sound) {ids : List RecordId} {property : String}
    {values : List Value} {count : Nat} (hs : s.setValues ids property values = .ok (count, s')) :
    ∃ records : List Record, (∀ r ∈ records, s.get? r.id = some r) ∧
      Stores s (records.map (·.setValues property values)) s' := by
  obtain ⟨records, hrecords, hs⟩ := Checked.exists_of_bind_ok hs
  cases hs
  have hkept : ∀ r ∈ records, s.get? r.id = some r := by
    intro r hr
    obtain ⟨id, _, hid⟩ := Checked.exists_of_mem_mapM _ hrecords hr
    have hget := get?_of_require hid
    have hown : r.id = id := h.keyed id r hget
    rw [hown, hget]
  exact ⟨records, hkept, h.stores_putEdited (keepsFile_setValues property values) hkept⟩

/-- What a change of the catalog asks of the records is never refused halfway. -/
theorem Sound.stores_of_applyChange (h : s.Sound) {change : CatalogChange} {count : Nat}
    (hs : s.applyChange change = .ok (count, s')) :
    ∃ (records : List Record) (edit : Record → Record),
      (∀ r ∈ records, s.get? r.id = some r) ∧ Stores s (records.map edit) s' := by
  have hkept : ∀ ids, ∀ r ∈ s.recordsOf ids, s.get? r.id = some r := by
    intro ids r hr
    obtain ⟨id, _, hget⟩ := List.mem_filterMap.mp hr
    have hown : r.id = id := h.keyed id r hget
    rw [hown, hget]
  have hnone : ∃ (records : List Record) (edit : Record → Record),
      (∀ r ∈ records, s.get? r.id = some r) ∧ Stores s (records.map edit) s :=
    ⟨[], id, by simp, .nil s⟩
  unfold applyChange at hs
  split at hs
  · cases hs
    exact hnone
  · dsimp only at hs
    split at hs
    · cases hs
      exact hnone
    · cases hs
  · rename_i old new
    cases hs
    exact ⟨_, _, hkept _, h.stores_putEdited (keepsFile_renameIn old new) (hkept _)⟩
  · rename_i name
    cases hs
    exact ⟨_, _, hkept _, h.stores_putEdited (keepsFile_setValues name []) (hkept _)⟩

/-! ### Batches that stop halfway -/

theorem le_foldl_nextAfter (records : List Record) :
    ∀ next : Nat, next ≤ records.foldl nextAfter next := by
  induction records with
  | nil => exact fun next => Nat.le_refl next
  | cons r rest ih =>
      intro next
      have hstep : next ≤ nextAfter next r := by
        unfold nextAfter
        split <;> omega
      exact Nat.le_trans hstep (ih _)

/-- The first of the records can be stored, and the store will not come to their end: one of
them has no path, or there are not enough identifiers. -/
structure StopsHalfway (s : Store) (records : List Record) : Prop where
  starts : ∃ first rest, records = first :: rest ∧ s.Takes first
  stops : (∃ r ∈ records, r.path.isEmpty) ∨ UInt64.size ≤ records.foldl nextAfter s.nextId.toNat

theorem StopsHalfway.not_stores {records last} (h : s.StopsHalfway records) :
    ¬Stores s records last := by
  intro hstores
  rcases h.stops with ⟨r, hr, hempty⟩ | hsize
  · rw [hstores.path r hr] at hempty
    cases hempty
  · have hlt := last.nextId.toNat_lt_size
    rw [hstores.nextId] at hlt
    omega

/-- **A batch that stops** has stored nothing, or stops halfway. -/
theorem Stops.cases {records last} (h : Stops s records last) :
    last = s ∨ s.StopsHalfway records := by
  obtain ⟨before, r, after, e, rfl, hbefore, hrefused⟩ := h
  cases hbefore with
  | nil => exact Or.inl rfl
  | @cons _ s' _ first id rest hfirst hrest =>
      refine Or.inr ⟨⟨first, _, rfl, takes_of_insert hfirst⟩, ?_⟩
      by_cases hempty : r.path.isEmpty
      · exact Or.inl ⟨r, by simp, hempty⟩
      · -- The record that is refused would get the highest identifier of all.
        have hlast : (last.givenId r).toNat + 1 = UInt64.size :=
          Decidable.byContradiction fun hlast =>
            not_takes_of_insert hrefused ⟨by simpa using hempty, hlast⟩
        have hnext : UInt64.size ≤ nextAfter last.nextId.toNat r := by
          unfold givenId at hlast
          unfold nextAfter
          by_cases hid : r.id = 0
          · rw [if_pos hid] at hlast ⊢
            omega
          · rw [if_neg hid] at hlast ⊢
            omega
        rw [(Stores.cons hfirst hrest).nextId] at hnext
        rw [List.foldl_append, List.foldl_cons]
        exact Or.inr (Nat.le_trans hnext (le_foldl_nextAfter after _))

/-- The first record of a batch that stops halfway is stored. -/
theorem StopsHalfway.exists_stored {records last} (h : s.StopsHalfway records)
    (hstops : Stops s records last) : ∃ first ∈ records, last.get? (s.givenId first) ≠ none := by
  obtain ⟨first, rest, rfl, htakes⟩ := h.starts
  obtain ⟨before, r, after, e, hrecords, hbefore, hrefused⟩ := hstops
  refine ⟨first, by simp, ?_⟩
  cases hbefore with
  | nil =>
      obtain ⟨rfl, -⟩ := List.cons.inj hrecords
      exact absurd htakes (not_takes_of_insert hrefused)
  | cons hfirst hrest =>
      obtain ⟨rfl, -⟩ := List.cons.inj hrecords
      obtain ⟨rfl, hrecords, -⟩ := insert_leaves hfirst
      refine hrest.keeps ?_
      rw [get?, hrecords, OrderedMap.getElem?_insert, if_pos rfl]
      exact Option.some_ne_none _

end MediaLibrary.Store
