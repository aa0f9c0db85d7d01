/-
The order of the records in a view.

Records are compared by one key after the other and at last by their identifiers.  `Precedes`
says what that means of two records.  Records with different identifiers are always told apart,
so sorting leaves nothing to chance: of two records in a sorted list the first one precedes the
second.
-/
import MediaLibrary.Proofs.OrderedMap
import MediaLibrary.Proofs.Store.Plan
import MediaLibrary.View.Sort

namespace MediaLibrary

open Std

variable {a b : Record}

/-! ### One key -/

namespace SortKey

variable {key : SortKey}

/-- Both records have the same value in the field. -/
def Ties (key : SortKey) (a b : Record) : Prop :=
  key.field.valueOf a = key.field.valueOf b

/-- The first record has the lower value in the field, or the higher one if the key is
descending. -/
def Before (key : SortKey) (a b : Record) : Prop :=
  if key.descending then Ord.compare (key.field.valueOf b) (key.field.valueOf a) = .lt
  else Ord.compare (key.field.valueOf a) (key.field.valueOf b) = .lt

theorem compare_of_descending (h : key.descending = true) (a b : Record) :
    key.compare a b = Ord.compare (key.field.valueOf b) (key.field.valueOf a) := by
  rw [compare, if_pos h]
  exact OrientedCmp.eq_swap.symm

theorem compare_of_ascending (h : key.descending = false) (a b : Record) :
    key.compare a b = Ord.compare (key.field.valueOf a) (key.field.valueOf b) := by
  rw [compare, if_neg (by simp [h])]

theorem compare_eq_eq_iff : key.compare a b = .eq ↔ key.Ties a b := by
  cases h : key.descending with
  | true => rw [compare_of_descending h, LawfulEqOrd.compare_eq_iff_eq, Ties, eq_comm]
  | false => rw [compare_of_ascending h, LawfulEqOrd.compare_eq_iff_eq, Ties]

theorem compare_eq_lt_iff : key.compare a b = .lt ↔ key.Before a b := by
  cases h : key.descending with
  | true => rw [compare_of_descending h, Before, if_pos h]
  | false => rw [compare_of_ascending h, Before, if_neg (by simp [h])]

instance : TransCmp key.compare := by
  cases h : key.descending with
  | true =>
      have hcompare : key.compare = fun a b => compareOn key.field.valueOf b a :=
        funext fun a => funext fun b => compare_of_descending h a b
      rw [hcompare]
      infer_instance
  | false =>
      have hcompare : key.compare = compareOn key.field.valueOf :=
        funext fun a => funext fun b => compare_of_ascending h a b
      rw [hcompare]
      infer_instance

end SortKey

/-! ### Keys one after the other -/

/-- The first key that tells the records apart puts the first of them before the second, and
without such a key it has the lower identifier. -/
def Precedes : List SortKey → Record → Record → Prop
  | [], a, b => a.id < b.id
  | key :: rest, a, b => key.Before a b ∨ key.Ties a b ∧ Precedes rest a b

variable {keys : List SortKey}

theorem compareBy_eq_lt_iff : compareBy keys a b = .lt ↔ Precedes keys a b := by
  induction keys with
  | nil => exact compare_eq_lt
  | cons key rest ih =>
      rw [compareBy, Ordering.then_eq_lt, SortKey.compare_eq_lt_iff, SortKey.compare_eq_eq_iff, ih,
        Precedes]

/-- Records that no key tells apart have the same identifier. -/
theorem id_eq_of_compareBy (h : compareBy keys a b = .eq) : a.id = b.id := by
  induction keys with
  | nil => exact LawfulEqOrd.eq_of_compare h
  | cons key rest ih => exact ih (Ordering.then_eq_eq.mp h).2

instance : TransCmp (compareBy keys) := by
  induction keys with
  | nil => exact inferInstanceAs (TransCmp (compareOn Record.id))
  | cons key rest ih => exact inferInstanceAs (TransCmp (compareLex key.compare (compareBy rest)))

/-! ### Sorted records -/

variable {records : List Record}

/-- Sorting neither adds records nor leaves any out. -/
theorem sortRecords_perm (keys : List SortKey) (records : List Record) :
    (sortRecords keys records).Perm records :=
  List.mergeSort_perm records _

theorem sortRecords_distinct (keys : List SortKey) (h : records.Pairwise (·.id ≠ ·.id)) :
    (sortRecords keys records).Pairwise (·.id ≠ ·.id) :=
  (sortRecords_perm keys records).symm.pairwise h fun hne => hne.symm

/-- **Of two records in a sorted list the first one precedes the second.** -/
theorem pairwise_sortRecords (keys : List SortKey) (h : records.Pairwise (·.id ≠ ·.id)) :
    (sortRecords keys records).Pairwise (Precedes keys) := by
  -- Records with different identifiers do not tie.
  have hne : records.Pairwise fun a b => compareBy keys a b ≠ .eq := by
    refine h.imp fun {a b} hid heq => hid ?_
    exact id_eq_of_compareBy heq
  refine (OrderedMap.pairwise_lt_mergeSort hne).imp fun {a b} hlt => ?_
  exact compareBy_eq_lt_iff.mp hlt

/-- There is a number for every page of sorted records. -/
theorem Store.Sound.length_sortRecords_lt {s : Store} (h : s.Sound) (keys : List SortKey)
    (filter : Filter) : max (sortRecords keys (s.select filter)).length 1 < UInt64.size := by
  rw [(sortRecords_perm keys _).length_eq]
  exact h.length_select_lt filter

end MediaLibrary
