/-
Sorted lists are determined.

Which of two records comes first is decided by the first key on which their values differ, in the
direction of that key, and where there is none by the identifiers.  No two records with different
identifiers tie, so there is only one way to put them in order: whatever the order was in which
they came, the sorted list is the same.

An identifier is a number without a sign, and its value as a field is one with a sign.  So a key
for the identifiers goes by their order only within either half of them, and puts the upper half
below the lower one.
-/
import MediaLibrary.Proofs.View.Sort

namespace MediaLibrary

open Std

variable {a b : Record} {keys : List SortKey} {records : List Record}

/-! ### The key that decides -/

/-- The first of the keys by which two records have different values. -/
def decidingKey? (keys : List SortKey) (a b : Record) : Option SortKey :=
  keys.find? fun key => key.field.valueOf a ≠ key.field.valueOf b

/-- The deciding key puts the first record before the second, and without one it has the lower
identifier. -/
def ComesBefore (keys : List SortKey) (a b : Record) : Prop :=
  match decidingKey? keys a b with
  | some key => key.Before a b
  | none => a.id < b.id

instance (key : SortKey) (a b : Record) : Decidable (key.Before a b) :=
  inferInstanceAs (Decidable (if key.descending then _ else _))

instance (keys : List SortKey) (a b : Record) : Decidable (ComesBefore keys a b) :=
  match h : decidingKey? keys a b with
  | some key => decidable_of_iff (key.Before a b) (by rw [ComesBefore, h])
  | none => decidable_of_iff (a.id < b.id) (by rw [ComesBefore, h])

/-- A key that puts a record before another one tells them apart. -/
theorem SortKey.Before.not_ties {key : SortKey} (h : key.Before a b) : ¬key.Ties a b := by
  intro hties
  have hlt := SortKey.compare_eq_lt_iff.mpr h
  rw [SortKey.compare_eq_eq_iff.mpr hties] at hlt
  cases hlt

/-- Going through the keys one by one comes to the key that decides. -/
theorem precedes_iff_comesBefore : Precedes keys a b ↔ ComesBefore keys a b := by
  induction keys with
  | nil => exact Iff.rfl
  | cons key rest ih =>
      rw [Precedes, ih, ComesBefore, ComesBefore, decidingKey?, decidingKey?]
      by_cases hties : key.field.valueOf a = key.field.valueOf b
      · rw [List.find?_cons_of_neg (by simpa using hties)]
        exact ⟨fun h => (h.resolve_left fun hbefore => hbefore.not_ties hties).2,
          fun h => .inr ⟨hties, h⟩⟩
      · rw [List.find?_cons_of_pos (by simpa using hties)]
        exact ⟨fun h => h.resolve_right fun htied => hties htied.1, .inl⟩

/-! ### One sorted list -/

theorem Precedes.asymm (h : Precedes keys a b) : ¬Precedes keys b a := by
  intro hba
  have hgt := OrientedCmp.gt_of_lt (compareBy_eq_lt_iff.mpr h)
  rw [compareBy_eq_lt_iff.mpr hba] at hgt
  cases hgt

/-- **There is one way to put records in order.** -/
theorem eq_sortRecords (hdistinct : records.Pairwise (·.id ≠ ·.id)) {sorted : List Record}
    (hperm : sorted.Perm records) (hsorted : sorted.Pairwise (Precedes keys)) :
    sorted = sortRecords keys records := by
  refine OrderedMap.eq_of_mem_iff (fun a b => Precedes.asymm) hsorted
    (pairwise_sortRecords keys hdistinct) fun a => ?_
  rw [hperm.mem_iff, (sortRecords_perm keys records).mem_iff]

/-- **Records are sorted as the keys say, and in one way only.**  For any keys, the sorted list of
records with different identifiers has the same records, and of two of them the first one comes
before the second: the first key on which their values differ says so in its direction, or no key
tells them apart and it has the lower identifier.  No other list of the records is in this order,
so it does not matter in which order they come. -/
theorem sorted_list_is_determined (keys : List SortKey) (records : List Record)
    (hdistinct : records.Pairwise (·.id ≠ ·.id)) :
    (sortRecords keys records).Perm records ∧
      (sortRecords keys records).Pairwise (ComesBefore keys) ∧
      (∀ sorted : List Record, sorted.Perm records → sorted.Pairwise (ComesBefore keys) →
        sorted = sortRecords keys records) ∧
      ∀ records' : List Record, records'.Perm records →
        sortRecords keys records' = sortRecords keys records := by
  refine ⟨sortRecords_perm keys records, ?_, fun sorted hperm hsorted => ?_,
    fun records' hperm => ?_⟩
  · exact (pairwise_sortRecords keys hdistinct).imp precedes_iff_comesBefore.mp
  · exact eq_sortRecords hdistinct hperm (hsorted.imp precedes_iff_comesBefore.mpr)
  · have hdistinct' : records'.Pairwise (·.id ≠ ·.id) :=
      hperm.symm.pairwise hdistinct fun hne => hne.symm
    exact eq_sortRecords hdistinct ((sortRecords_perm keys records').trans hperm)
      (pairwise_sortRecords keys hdistinct')

/-- Titles from the last to the first, and among equal ones the lower size first. -/
theorem titles_are_sorted_backwards :
    let keys : List SortKey := [⟨.title, true⟩, ⟨.size, false⟩, ⟨.title, false⟩]
    let ant (id : RecordId) (size : UInt64) : Record := { id, title := "ant", size }
    let bee : Record := { id := 3, title := "bee", size := 9 }
    let records : List Record := [ant 2 8, ant 4 5, bee, ant 1 8]
    records.Pairwise (·.id ≠ ·.id) ∧ sortRecords keys records = [bee, ant 4 5, ant 1 8, ant 2 8] ∧
      sortRecords keys records.reverse = sortRecords keys records := by
  intro keys ant bee records
  have hdistinct : records.Pairwise (·.id ≠ ·.id) := by decide
  obtain ⟨_, _, honly, hany⟩ := sorted_list_is_determined keys records hdistinct
  refine ⟨hdistinct, (honly _ ?_ ?_).symm, hany _ (List.reverse_perm records)⟩
  · decide +kernel
  · decide +kernel

/-! ### Identifiers as keys -/

/-- The identifier is in the upper half of all identifiers. -/
def Record.isUpper (r : Record) : Bool := UInt64.size / 2 ≤ r.id.toNat

theorem isUpper_iff (r : Record) : r.isUpper = true ↔ UInt64.size / 2 ≤ r.id.toNat :=
  decide_eq_true_iff

/-- The value of an identifier is the identifier, less the number of all of them if it is in the
upper half. -/
theorem toInt_value (r : Record) :
    r.id.toInt64.toInt = (r.id.toNat : Int) - if r.isUpper then (UInt64.size : Int) else 0 := by
  have hsize : UInt64.size = 18446744073709551616 := rfl
  have hbits : r.id.toInt64.toInt = r.id.toBitVec.toInt := rfl
  rw [hbits, BitVec.toInt_eq_toNat_cond, UInt64.toNat_toBitVec]
  by_cases hupper : UInt64.size / 2 ≤ r.id.toNat
  · rw [if_neg (by omega), if_pos ((isUpper_iff r).mpr hupper)]
  · rw [if_pos (by omega), if_neg fun htrue => hupper ((isUpper_iff r).mp htrue), Int.sub_zero]

/-- One key for the identifiers goes by their values. -/
theorem before_id_iff :
    SortKey.Before ⟨.id, false⟩ a b ↔ a.id.toInt64.toInt < b.id.toInt64.toInt := by
  rw [SortKey.Before, if_neg Bool.false_ne_true, ← Int64.lt_iff_toInt_lt]
  show compare a.id.toInt64 b.id.toInt64 = .lt ↔ _
  exact compare_eq_lt

/-- Different identifiers have different values. -/
theorem id_eq_of_ties {descending : Bool} (h : SortKey.Ties ⟨.id, descending⟩ a b) :
    a.id = b.id := by
  have hvalue : a.id.toInt64 = b.id.toInt64 := FieldValue.int.inj h
  exact UInt64.toBitVec_inj.mp (congrArg Int64.toBitVec hvalue)

/-- So a key for them decides. -/
theorem precedes_id_iff {descending : Bool} :
    Precedes [⟨.id, descending⟩] a b ↔ SortKey.Before ⟨.id, descending⟩ a b := by
  refine ⟨fun h => h.resolve_right ?_, .inl⟩
  rintro ⟨hties, hlt⟩
  have hlt : a.id < b.id := hlt
  rw [id_eq_of_ties hties] at hlt
  exact absurd hlt (UInt64.lt_irrefl b.id)

/-- The other direction is the other way round. -/
theorem precedes_id_descending : Precedes [⟨.id, true⟩] a b ↔ Precedes [⟨.id, false⟩] b a := by
  rw [precedes_id_iff, precedes_id_iff, SortKey.Before, SortKey.Before, if_pos rfl,
    if_neg Bool.false_ne_true]

/-- The upper half of the identifiers comes before the lower one. -/
theorem precedes_id_ascending :
    Precedes [⟨.id, false⟩] a b ↔
      (a.isUpper = true ∧ b.isUpper = false) ∨ (a.isUpper = b.isUpper ∧ a.id < b.id) := by
  have hsize : UInt64.size = 18446744073709551616 := rfl
  have ha := a.id.toNat_lt
  have hb := b.id.toNat_lt
  have hupper := isUpper_iff a
  have hupper' := isUpper_iff b
  rw [precedes_id_iff, before_id_iff, toInt_value, toInt_value, UInt64.lt_iff_toNat_lt]
  cases h : a.isUpper <;> cases h' : b.isUpper <;> simp [h, h'] at hupper hupper' ⊢ <;> omega

/-- Identifiers in one half keep their order. -/
theorem pairwise_sortRecords_half (hdistinct : records.Pairwise (·.id ≠ ·.id)) {upper : Bool}
    (hhalf : ∀ r ∈ records, r.isUpper = upper) :
    (sortRecords [] records).Pairwise (Precedes [⟨.id, false⟩]) := by
  have hmem : ∀ {r}, r ∈ sortRecords [] records → r.isUpper = upper := fun {r} hr =>
    hhalf r ((sortRecords_perm [] records).mem_iff.mp hr)
  refine (pairwise_sortRecords [] hdistinct).imp_of_mem fun {a b} ha hb hlt => ?_
  exact precedes_id_ascending.mpr (.inr ⟨(hmem ha).trans (hmem hb).symm, hlt⟩)

/-- So a key for them makes no difference there. -/
theorem sortRecords_id_half (hdistinct : records.Pairwise (·.id ≠ ·.id)) {upper : Bool}
    (hhalf : ∀ r ∈ records, r.isUpper = upper) :
    sortRecords [⟨.id, false⟩] records = sortRecords [] records :=
  (eq_sortRecords hdistinct (sortRecords_perm [] records)
    (pairwise_sortRecords_half hdistinct hhalf)).symm

/-- **The upper half of the identifiers is sorted below the lower one.** -/
theorem sortRecords_id_ascending (hdistinct : records.Pairwise (·.id ≠ ·.id)) :
    sortRecords [⟨.id, false⟩] records =
      sortRecords [] (records.filter (·.isUpper)) ++
        sortRecords [] (records.filter (!·.isUpper)) := by
  have hupper : ∀ r ∈ records.filter (·.isUpper), r.isUpper = true := fun r hr =>
    (List.mem_filter.mp hr).2
  have hlower : ∀ r ∈ records.filter (!·.isUpper), r.isUpper = false := fun r hr => by
    simpa using (List.mem_filter.mp hr).2
  refine (eq_sortRecords hdistinct ?_ (List.pairwise_append.mpr ⟨?_, ?_, ?_⟩)).symm
  · exact ((sortRecords_perm [] _).append (sortRecords_perm [] _)).trans
      (List.filter_append_perm _ records)
  · exact pairwise_sortRecords_half (hdistinct.sublist List.filter_sublist) hupper
  · exact pairwise_sortRecords_half (hdistinct.sublist List.filter_sublist) hlower
  · intro a ha b hb
    have ha := hupper a ((sortRecords_perm [] _).mem_iff.mp ha)
    have hb := hlower b ((sortRecords_perm [] _).mem_iff.mp hb)
    exact precedes_id_ascending.mpr (.inl ⟨ha, hb⟩)

/-- A list in one direction is the list in the other one, read backwards. -/
theorem sortRecords_id_descending (hdistinct : records.Pairwise (·.id ≠ ·.id)) :
    sortRecords [⟨.id, true⟩] records = (sortRecords [⟨.id, false⟩] records).reverse := by
  refine (eq_sortRecords hdistinct ?_ (List.pairwise_reverse.mpr ?_)).symm
  · exact (List.reverse_perm _).trans (sortRecords_perm _ records)
  · exact (pairwise_sortRecords _ hdistinct).imp precedes_id_descending.mpr

/-- **A key for the identifiers goes by their order in each half of them.**  Records with different
identifiers are sorted by them if there is no key.  With the key for the identifiers, those in the
upper half of all identifiers come first, and each half is sorted by them; in the other direction
the list is the same one read backwards.  So the key leaves the records in the order of their
identifiers if and only if all of these are in one half. -/
theorem identifiers_are_sorted_by_half (records : List Record)
    (hdistinct : records.Pairwise (·.id ≠ ·.id)) :
    let upper := records.filter (·.isUpper)
    let lower := records.filter (!·.isUpper)
    (sortRecords [] records).Pairwise (·.id < ·.id) ∧
      sortRecords [⟨.id, false⟩] records = sortRecords [] upper ++ sortRecords [] lower ∧
      sortRecords [⟨.id, true⟩] records = (sortRecords [⟨.id, false⟩] records).reverse ∧
      (sortRecords [⟨.id, false⟩] records = sortRecords [] records ↔ upper = [] ∨ lower = []) := by
  intro upper lower
  have hascending : (sortRecords [] records).Pairwise (·.id < ·.id) :=
    pairwise_sortRecords [] hdistinct
  have hhalves : sortRecords [⟨.id, false⟩] records = sortRecords [] upper ++ sortRecords [] lower :=
    sortRecords_id_ascending hdistinct
  refine ⟨hascending, hhalves, sortRecords_id_descending hdistinct, fun hsame => ?_, ?_⟩
  · by_cases hupper : upper = []
    · exact .inl hupper
    -- A record of the lower half would be out of order behind one of the upper half.
    refine .inr (List.eq_nil_iff_forall_not_mem.mpr fun b hb => ?_)
    obtain ⟨a, ha⟩ := List.exists_mem_of_ne_nil upper hupper
    rw [← hsame, hhalves] at hascending
    have hlt : a.id < b.id := (List.pairwise_append.mp hascending).2.2
      a ((sortRecords_perm [] upper).mem_iff.mpr ha) b ((sortRecords_perm [] lower).mem_iff.mpr hb)
    have ha := (isUpper_iff a).mp (List.mem_filter.mp ha).2
    have hb : ¬b.isUpper = true := by simpa using (List.mem_filter.mp hb).2
    rw [isUpper_iff] at hb
    have hlt := UInt64.lt_iff_toNat_lt.mp hlt
    omega
  · rintro (hnone | hnone)
    · have hhalf : ∀ r ∈ records, r.isUpper = false := fun r hr => by
        simpa using List.filter_eq_nil_iff.mp hnone r hr
      exact sortRecords_id_half hdistinct hhalf
    · have hhalf : ∀ r ∈ records, r.isUpper = true := fun r hr => by
        simpa using List.filter_eq_nil_iff.mp hnone r hr
      exact sortRecords_id_half hdistinct hhalf

/-- Two records of the lower half and one of the upper half. -/
theorem identifiers_are_sorted_around_the_middle :
    let two : Record := { id := 2 }
    let last : Record := { id := 9223372036854775807 }
    let big : Record := { id := 9223372036854775808 }
    [last, big, two].Pairwise (·.id ≠ ·.id) ∧
      sortRecords [⟨.id, false⟩] [last, big, two] = [big, two, last] ∧
      sortRecords [⟨.id, true⟩] [last, big, two] = [last, two, big] := by
  intro two last big
  have hdistinct : [last, big, two].Pairwise (·.id ≠ ·.id) := by decide
  obtain ⟨_, hhalves, hreverse, _⟩ := identifiers_are_sorted_by_half _ hdistinct
  have hprecedes : Precedes [] two last := show two.id < last.id by decide
  have hupper : sortRecords [] [big] = [big] := List.mergeSort_singleton big
  have hlower : [two, last] = sortRecords [] [last, two] :=
    eq_sortRecords (by decide) (.swap last two []) (List.pairwise_pair.mpr hprecedes)
  have hascending : sortRecords [⟨.id, false⟩] [last, big, two] = [big, two, last] := by
    refine hhalves.trans ?_
    show sortRecords [] [big] ++ sortRecords [] [last, two] = _
    rw [hupper, ← hlower]
    rfl
  rw [hascending] at hreverse
  exact ⟨hdistinct, hascending, hreverse⟩

/-- The first identifier of the upper half comes before the first one of all. -/
theorem upper_identifier_comes_first :
    let one : Record := { id := 1, path := "/a/one.mkv" }
    let big : Record := { id := 9223372036854775808, path := "/a/big.mkv" }
    sortRecords [⟨.id, false⟩] [one, big] = [big, one] ∧ ¬[big, one].Pairwise (·.id < ·.id) := by
  intro one big
  have hdistinct : [one, big].Pairwise (·.id ≠ ·.id) := by decide
  have hprecedes : Precedes [⟨.id, false⟩] big one :=
    precedes_id_ascending.mpr (.inl ⟨by decide, by decide⟩)
  refine ⟨(eq_sortRecords hdistinct (.swap one big []) ?_).symm, by decide⟩
  exact List.pairwise_pair.mpr hprecedes

end MediaLibrary
