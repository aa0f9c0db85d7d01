/-
Where the records of a batch are stored.

`Places` follows a batch as it is stored and has the identifier of each record beside it.  Every
step leaves a next identifier above the one that it gave away and never a smaller one than before.
So an identifier that is assigned is above all that were given away before it, be they assigned or
brought along, in the same batch or earlier.
-/
import MediaLibrary.Proofs.Store.Batch

namespace MediaLibrary.Store

variable {s s' last : Store} {r : Record} {id : RecordId} {placed : List (Record × RecordId)}

/-- **What storing a record does to the next identifier:** it does not get smaller, and is above
the identifier of the record. -/
theorem insert_next (h : s.insert r = .ok (id, s')) :
    s.nextId ≤ s'.nextId ∧ id < s'.nextId := by
  obtain ⟨rfl, _, hnext⟩ := insert_leaves h
  rw [UInt64.le_iff_toNat_le, UInt64.lt_iff_toNat_lt, hnext]
  unfold givenId nextAfter
  split <;> omega

/-- The records are stored one after the other, each under the identifier beside it. -/
inductive Places : Store → List (Record × RecordId) → Store → Prop
  | nil (s : Store) : Places s [] s
  | cons {s s' last : Store} {r : Record} {id : RecordId} {rest : List (Record × RecordId)}
      (h : s.insert r = .ok (id, s')) (hrest : Places s' rest last) :
      Places s ((r, id) :: rest) last

namespace Places

theorem append {more : List (Record × RecordId)} (h : Places s placed s')
    (hmore : Places s' more last) : Places s (placed ++ more) last := by
  induction h with
  | nil s => exact hmore
  | cons h _ ih => exact .cons h (ih hmore)

/-- The records are stored, whatever their identifiers are. -/
theorem stores (h : Places s placed last) : Stores s (placed.map Prod.fst) last := by
  induction h with
  | nil s => exact .nil s
  | cons h _ ih => exact .cons h ih

/-! ### Identifiers -/

/-- A record that brings an identifier keeps it. -/
theorem own (h : Places s placed last) : ∀ p ∈ placed, p.1.id ≠ 0 → p.2 = p.1.id := by
  induction h with
  | nil s => simp
  | cons h _ ih =>
      refine List.forall_mem_cons.mpr ⟨fun hid => ?_, ih⟩
      rw [(insert_leaves h).1, givenId, if_neg hid]

/-- An identifier that is assigned is not below the one that was next at the start. -/
theorem nextId_le_of_assigned (h : Places s placed last) :
    ∀ p ∈ placed, p.1.id = 0 → s.nextId ≤ p.2 := by
  induction h with
  | nil s => simp
  | cons h _ ih =>
      refine List.forall_mem_cons.mpr ⟨fun hid => ?_, fun p hp hid => ?_⟩
      · rw [(insert_leaves h).1, givenId, if_pos hid]
        exact UInt64.le_refl _
      · exact UInt64.le_trans (insert_next h).1 (ih p hp hid)

/-- **An identifier that is assigned is above all that were given away before it.** -/
theorem above (h : Places s placed last) :
    placed.Pairwise fun p q => q.1.id = 0 → p.2 < q.2 := by
  induction h with
  | nil s => exact .nil
  | cons h hrest ih =>
      refine .cons (fun q hq hid => ?_) ih
      exact UInt64.lt_of_lt_of_le (insert_next h).2 (hrest.nextId_le_of_assigned q hq hid)

/-- **No identifier is given away twice** if records that bring one come first and bring
different ones. -/
theorem nodup {own assigned : List (Record × RecordId)} (h : Places s (own ++ assigned) last)
    (hown : ∀ p ∈ own, p.1.id ≠ 0) (hassigned : ∀ p ∈ assigned, p.1.id = 0)
    (hdistinct : (own.map (·.1.id)).Nodup) : ((own ++ assigned).map Prod.snd).Nodup := by
  have hkept : own.map Prod.snd = own.map (·.1.id) := List.map_congr_left fun p hp =>
    h.own p (List.mem_append_left assigned hp) (hown p hp)
  obtain ⟨_, hlater, hcross⟩ := List.pairwise_append.mp h.above
  rw [List.map_append]
  refine List.pairwise_append.mpr ⟨hkept ▸ hdistinct, ?_, ?_⟩
  · refine List.pairwise_map.mpr (hlater.imp_of_mem fun {p q} _ hq hlt => ?_)
    exact UInt64.ne_of_lt (hlt (hassigned q hq))
  · intro id hid id' hid'
    obtain ⟨p, hp, rfl⟩ := List.mem_map.mp hid
    obtain ⟨q, hq, rfl⟩ := List.mem_map.mp hid'
    exact UInt64.ne_of_lt (hcross p hp q hq (hassigned q hq))

/-! ### Records -/

/-- Nothing is stored under another identifier. -/
theorem get?_of_not_mem (h : Places s placed last) (hid : id ∉ placed.map Prod.snd) :
    last.get? id = s.get? id := by
  induction h with
  | nil s => rfl
  | cons h _ ih =>
      rw [List.map_cons, List.mem_cons, not_or] at hid
      rw [ih hid.2, get?, get?, (insert_leaves h).2.1, OrderedMap.getElem?_insert,
        if_neg (Ne.symm hid.1)]

/-- **Each record is found under its identifier** if no two of them have the same. -/
theorem get?_of_mem (h : Places s placed last) (hdistinct : (placed.map Prod.snd).Nodup) :
    ∀ p ∈ placed, last.get? p.2 = some { p.1 with id := p.2 } := by
  induction h with
  | nil s => simp
  | @cons s s' last r id rest h hrest ih =>
      obtain ⟨hfresh, hdistinct⟩ := List.nodup_cons.mp hdistinct
      refine List.forall_mem_cons.mpr ⟨?_, ih hdistinct⟩
      show last.get? id = some { r with id }
      rw [hrest.get?_of_not_mem hfresh, get?, (insert_leaves h).2.1, OrderedMap.getElem?_insert,
        if_pos rfl]

end Places

/-! ### A batch in another order -/

/-- What storing a batch leaves, whatever the order of its records. -/
structure Assigns (s : Store) (pairs : List (Record × RecordId)) (last : Store) : Prop where
  distinct : (pairs.map Prod.snd).Nodup
  own : ∀ p ∈ pairs, p.1.id ≠ 0 → p.2 = p.1.id
  next : ∀ p ∈ pairs, p.1.id = 0 → s.nextId ≤ p.2
  /-- Identifiers that are assigned are above those that are brought along. -/
  above : ∀ p ∈ pairs, p.1.id ≠ 0 → ∀ q ∈ pairs, q.1.id = 0 → p.2 < q.2
  ascending : pairs.Pairwise fun p q => p.1.id = 0 → q.1.id = 0 → p.2 < q.2
  stored : ∀ p ∈ pairs, last.get? p.2 = some { p.1 with id := p.2 }
  others : ∀ id, id ∉ pairs.map Prod.snd → last.get? id = s.get? id

/-- **Records that bring an identifier may be stored before the others**, wherever they stand in
the batch. -/
theorem Places.assigns {pairs : List (Record × RecordId)}
    (h : Places s (pairs.filter (·.1.id ≠ 0) ++ pairs.filter (·.1.id = 0)) last)
    (hdistinct : ((pairs.filter (·.1.id ≠ 0)).map (·.1.id)).Nodup) : s.Assigns pairs last := by
  have hperm : (pairs.filter (·.1.id ≠ 0) ++ pairs.filter (·.1.id = 0)).Perm pairs := by
    simpa using List.filter_append_perm (fun p : Record × RecordId => p.1.id ≠ 0) pairs
  have hmem : ∀ p ∈ pairs, p ∈ pairs.filter (·.1.id ≠ 0) ++ pairs.filter (·.1.id = 0) :=
    fun p hp => hperm.mem_iff.mpr hp
  have hnodup := h.nodup (fun p hp => by simpa using (List.mem_filter.mp hp).2)
    (fun p hp => by simpa using (List.mem_filter.mp hp).2) hdistinct
  obtain ⟨_, hlater, hcross⟩ := List.pairwise_append.mp h.above
  constructor
  case distinct => exact (hperm.map Prod.snd).nodup_iff.mp hnodup
  case own => exact fun p hp => h.own p (hmem p hp)
  case next => exact fun p hp => h.nextId_le_of_assigned p (hmem p hp)
  case above =>
    intro p hp hown q hq hassigned
    exact hcross p (List.mem_filter.mpr ⟨hp, by simpa using hown⟩) q
      (List.mem_filter.mpr ⟨hq, by simpa using hassigned⟩) hassigned
  case ascending =>
    refine (List.pairwise_filter.mp hlater).imp fun hlt hp hq => ?_
    exact hlt (by simpa using hp) (by simpa using hq) hq
  case stored => exact fun p hp => h.get?_of_mem hnodup p (hmem p hp)
  case others =>
    exact fun id hid => h.get?_of_not_mem fun hc => hid ((hperm.map Prod.snd).mem_iff.mp hc)

end MediaLibrary.Store
