/-
The pages of a view.

Pages of one size, put one after the other, are the whole selection.  A page is asked for
by a 64-bit number, so this needs as many numbers as there are pages, and there are never more
pages than records.
-/
import MediaLibrary.View.Page

namespace MediaLibrary

/-! ### Pieces of one size -/

/-- Pieces of one size, as many as wanted, are the front of the list. -/
private theorem flatMap_pieces {α : Type} (items : List α) (size count : Nat) :
    (List.range count).flatMap (fun k => (items.drop (k * size)).take size) =
      items.take (count * size) := by
  induction count with
  | zero => simp
  | succ count ih =>
      rw [List.range_succ, List.flatMap_append, ih, Nat.succ_mul, List.take_add]
      simp

theorem pageCount_pos (size count : Nat) : 0 < pageCount size count := by
  unfold pageCount
  omega

/-- The pages hold everything. -/
theorem le_pageCount_mul {size : Nat} (hsize : 0 < size) (count : Nat) :
    count ≤ pageCount size count * size := by
  have hdiv : count ≤ (count + size - 1) / size * size := by
    have hmod := Nat.div_add_mod (count + size - 1) size
    have hlt := Nat.mod_lt (count + size - 1) hsize
    rw [Nat.mul_comm] at hmod
    omega
  exact Nat.le_trans hdiv (Nat.mul_le_mul_right size (Nat.le_max_left _ _))

/-- There are no more pages than records, unless there are no records. -/
theorem pageCount_le {size : Nat} (hsize : 0 < size) (count : Nat) :
    pageCount size count ≤ max count 1 := by
  unfold pageCount
  have hdiv : (count + size - 1) / size ≤ max count 1 := by
    rw [Nat.div_le_iff_le_mul_add_pred hsize]
    rcases Nat.eq_zero_or_pos count with rfl | hcount
    · omega
    · have hle : count ≤ size * count := Nat.le_mul_of_pos_left count hsize
      rw [Nat.max_eq_left hcount]
      omega
  omega

variable {records : List Record} {selector : Option Selector}

/-! ### Selections -/

theorem selectRecords_sublist (selector : Option Selector) (records : List Record) :
    (selectRecords selector records).Sublist records := by
  cases selector with
  | none => exact .refl records
  | some s => exact List.filter_sublist

theorem mem_selectRecords {r : Record} : r ∈ selectRecords selector records ↔
    r ∈ records ∧ ∀ s ∈ selector, s.selects r.id = true := by
  cases selector with
  | none => simp [selectRecords]
  | some s => simp [selectRecords]

/-! ### Pages -/

/-- The pages of one size of a selection can be numbered. -/
theorem pageCount_lt_size (hcount : max records.length 1 < UInt64.size) (size : UInt64) :
    pageCount (max size.toNat 1) (selectRecords selector records).length < UInt64.size := by
  have hsize : 0 < max size.toNat 1 := by omega
  have hpages := pageCount_le hsize (selectRecords selector records).length
  have hlength := (selectRecords_sublist selector records).length_le
  omega

/-- **The pages of a view, one after the other, are what is selected of the view.** -/
theorem flatMap_paginate (records : List Record) (selector : Option Selector) (size : UInt64)
    (hcount : max records.length 1 < UInt64.size) :
    let selection := selectRecords selector records
    let pages := pageCount (max size.toNat 1) selection.length
    (List.range pages).flatMap (fun k =>
      (paginate records ⟨size, UInt64.ofNat k, selector⟩).records) = selection := by
  intro selection pages
  have hpages : pages < UInt64.size := pageCount_lt_size hcount size
  have hpage : ∀ k ∈ List.range pages,
      (paginate records ⟨size, UInt64.ofNat k, selector⟩).records =
        (selection.drop (k * max size.toNat 1)).take (max size.toNat 1) := by
    intro k hk
    have hk := List.mem_range.mp hk
    have hnumber : (UInt64.ofNat k).toNat = k := UInt64.toNat_ofNat_of_lt' (Nat.lt_trans hk hpages)
    have hmin : min k (pages - 1) = k := by omega
    show ((selection.drop (min (UInt64.ofNat k).toNat (pages - 1) * _)).take _) = _
    rw [hnumber, hmin]
  rw [List.flatMap_def, List.map_congr_left hpage, ← List.flatMap_def, flatMap_pieces]
  exact List.take_of_length_le (le_pageCount_mul (by omega) selection.length)

end MediaLibrary
