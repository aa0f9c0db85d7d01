/-
Records that are told apart by their identifiers.

Groups and indices list identifiers, so what they say of records rests on this: an identifier
belongs to one record.  Then a record of the library is in a list if and only if its identifier
is among those of the list.
-/
import Mathlib.Data.List.Nodup
import MediaLibrary.Record.Basic

namespace MediaLibrary

/-- An identifier belongs to one record; the record may be there more than once. -/
def Identified (records : List Record) : Prop :=
  ∀ a ∈ records, ∀ b ∈ records, a.id = b.id → a = b

/-- Different records have different identifiers. -/
theorem eq_of_id_eq {records : List Record} (hdistinct : records.Pairwise (·.id ≠ ·.id))
    {a b : Record} (ha : a ∈ records) (hb : b ∈ records) (hid : a.id = b.id) : a = b :=
  List.inj_on_of_nodup_map (List.pairwise_map.mpr hdistinct) ha hb hid

theorem identified_of_distinct {records : List Record}
    (hdistinct : records.Pairwise (·.id ≠ ·.id)) : Identified records :=
  fun _ ha _ hb hid => eq_of_id_eq hdistinct ha hb hid

theorem distinct_of_ascending {records : List Record}
    (hascending : records.Pairwise (·.id < ·.id)) : records.Pairwise (·.id ≠ ·.id) := by
  refine hascending.imp fun {a b} hlt heq => ?_
  rw [heq] at hlt
  exact UInt64.lt_irrefl _ hlt

/-- The identifier of a record is listed if the record is. -/
theorem Identified.id_mem_map_iff {records some : List Record} (h : Identified records)
    (hsome : some ⊆ records) {r : Record} (hr : r ∈ records) :
    r.id ∈ some.map (·.id) ↔ r ∈ some := by
  constructor
  · intro hmem
    obtain ⟨q, hq, hid⟩ := List.mem_map.mp hmem
    have heq : q = r := h q (hsome hq) r hr hid
    rwa [heq] at hq
  · exact fun hmem => List.mem_map_of_mem hmem

end MediaLibrary
