/-
Move groups and their labels.

A fingerprint that a readable missing record shares with a readable found one makes a move
group, and all readable records of that fingerprint carry its label.  The label is the
fingerprint in writing.  What tells labels apart is that numerals consist of digits, so the
comma and the stroke between them can be found again; hence records with a label have the same
one if and only if they have the same fingerprint.

Together with the destinations this says everything that is asked of the index.  None of it
mentions the order of the records, so the index does not depend on it.
-/
import Mathlib.Data.List.Basic
import MediaLibrary.Proofs.Moves.Candidates

namespace MediaLibrary

open Std

/-! ### Labels tell fingerprints apart -/

/-- The digits of a number, which can be read back. -/
private def digits (n : UInt64) : List Char :=
  Nat.toDigits 10 n.toNat

private theorem toList_toString (n : UInt64) : (toString n).toList = digits n := by
  show (toString n.toNat).toList = digits n
  rw [Nat.toString_eq_repr, Nat.toList_repr, digits]

private theorem digits_inj {m n : UInt64} (h : digits m = digits n) : m = n := by
  have hread := congrArg (fun cs => Nat.ofDigitChars 10 cs 0) h
  simp only [digits, Nat.ofDigitChars_ten_toDigits] at hread
  exact UInt64.toNat_inj.mp hread

private theorem notMem_digits {c : Char} (hc : c.isDigit = false) (n : UInt64) :
    c ∉ digits n := by
  intro hmem
  have hdigit := Nat.isDigit_of_mem_toDigits (by decide) (by decide) hmem
  rw [hc] at hdigit
  cases hdigit

namespace Fingerprint

private theorem toList_text (f : Fingerprint) :
    f.text.toList = digits f.size ++
      ',' :: ' ' :: (digits f.duration ++ '/' :: digits f.timeBase) := by
  have htext : ∀ s : String, toString s = s := fun _ => rfl
  unfold text
  simp [toList_toString, htext]

/-- **Different fingerprints are written differently.** -/
theorem text_inj {a b : Fingerprint} : a.text = b.text ↔ a = b := by
  constructor
  · intro h
    have hchars := congrArg String.toList h
    rw [toList_text, toList_text] at hchars
    have hcomma : ∀ n, ',' ∉ digits n := notMem_digits (by decide)
    have hstroke : ∀ n, '/' ∉ digits n := notMem_digits (by decide)
    obtain ⟨hsize, _, hrest⟩ := (List.append_cons_inj_of_notMem (hcomma _) (by simp [hcomma])).mp hchars
    obtain ⟨hduration, _, htimeBase⟩ :=
      (List.append_cons_inj_of_notMem (hstroke _) (hstroke _)).mp (List.cons.inj hrest).2
    cases a
    cases b
    simp only [mk.injEq]
    exact ⟨digits_inj hsize, digits_inj hduration, digits_inj htimeBase⟩
  · rintro rfl
    rfl

end Fingerprint

/-! ### Who carries a label -/

/-- A readable missing record and a readable found one have this fingerprint. -/
structure MoveGroup (records : List Record) (f : Fingerprint) : Prop where
  missing : ∃ m ∈ records,
    m.flags.readable = true ∧ m.flags.found = false ∧ Fingerprint.ofRecord m = f
  found : ∃ q ∈ records,
    q.flags.readable = true ∧ q.flags.found = true ∧ Fingerprint.ofRecord q = f

namespace MoveIndex

variable {records records' : List Record} {id : RecordId} {label : String}

/-- The label that a group of missing records tells of an identifier. -/
private def groupLabel? (found : ExtTreeMap Fingerprint (List Record)) (id : RecordId)
    (group : Fingerprint × List Record) : Option String :=
  match found[group.1]? with
  | some found => if (group.2 ++ found).any (·.id = id) then some group.1.text else none
  | none => none

private theorem labels_told (found : ExtTreeMap Fingerprint (List Record)) (id : RecordId) :
    ToldBy found (·.label? id) (groupLabel? found id) where
  empty := ExtTreeMap.getElem?_empty
  withGroup index group := by
    unfold withGroup groupLabel?
    cases found[group.1]? with
    | none => rfl
    | some same =>
        show ((group.2 ++ same).foldl _ index.labels)[id]? = _
        rw [getElem?_foldl_insert]
        dsimp only
        split <;> rfl

/-- The records of one fingerprint that take part in a group are the readable ones. -/
theorem mem_missingOf_or_mem_foundOf {r : Record} :
    r ∈ missingOf records ∨ r ∈ foundOf records ↔ r ∈ records ∧ r.flags.readable = true := by
  rw [mem_missingOf, mem_foundOf]
  cases r.flags.found <;> simp

theorem exists_of_label (h : (ofRecords records).label? id = some label) :
    ∃ r ∈ records, r.id = id ∧ r.flags.readable = true ∧
      MoveGroup records (Fingerprint.ofRecord r) ∧ label = (Fingerprint.ofRecord r).text := by
  obtain ⟨m, hm, htold⟩ := (labels_told _ id).exists_group h
  unfold groupLabel? at htold
  split at htold
  · rename_i found hfound
    obtain ⟨rfl, hsome⟩ := getElem?_byFingerprint_eq_some.mp hfound
    obtain ⟨q, hq⟩ := List.exists_mem_of_ne_nil _ hsome
    obtain ⟨hq, hqkey⟩ := List.mem_filter.mp hq
    split at htold
    · rename_i hany
      obtain rfl := Option.some.inj htold
      obtain ⟨r, hr, hid⟩ := List.any_eq_true.mp hany
      -- Whether it is missing or was found, the record has the fingerprint of the group.
      have hkey : Fingerprint.ofRecord r = Fingerprint.ofRecord m := by
        rcases List.mem_append.mp hr with hr | hr
        · exact of_decide_eq_true (List.mem_filter.mp hr).2
        · exact of_decide_eq_true (List.mem_filter.mp hr).2
      have hreadable : r ∈ records ∧ r.flags.readable = true := by
        refine mem_missingOf_or_mem_foundOf.mp ((List.mem_append.mp hr).imp ?_ ?_)
        · exact fun hr => (List.mem_filter.mp hr).1
        · exact fun hr => (List.mem_filter.mp hr).1
      obtain ⟨hm, hmreadable, hmissing⟩ := mem_missingOf.mp hm
      obtain ⟨hq, hqreadable, hqfound⟩ := mem_foundOf.mp hq
      refine ⟨r, hreadable.1, of_decide_eq_true hid, hreadable.2, ?_, by rw [hkey]⟩
      exact ⟨⟨m, hm, hmreadable, hmissing, hkey.symm⟩,
        ⟨q, hq, hqreadable, hqfound, (of_decide_eq_true hqkey).trans hkey.symm⟩⟩
    · cases htold
  · cases htold

theorem exists_label {r : Record} (hr : r ∈ records) (hreadable : r.flags.readable = true)
    (hgroup : MoveGroup records (Fingerprint.ofRecord r)) :
    ∃ label, (ofRecords records).label? r.id = some label := by
  obtain ⟨⟨m, hm, hmreadable, hmissing, hmkey⟩, ⟨q, hq, hqreadable, hqfound, hqkey⟩⟩ := hgroup
  have hm := mem_missingOf.mpr ⟨hm, hmreadable, hmissing⟩
  obtain ⟨found, hfound, _⟩ := exists_byFingerprint (mem_foundOf.mpr ⟨hq, hqreadable, hqfound⟩)
  rw [hqkey, ← hmkey] at hfound
  refine (labels_told _ r.id).exists_read hm (b := (Fingerprint.ofRecord m).text) ?_
  unfold groupLabel?
  simp only [hfound]
  refine if_pos (List.any_eq_true.mpr ⟨r, List.mem_append.mpr ?_, by simp⟩)
  obtain ⟨rfl, _⟩ := getElem?_byFingerprint_eq_some.mp hfound
  refine (mem_missingOf_or_mem_foundOf.mpr ⟨hr, hreadable⟩).imp ?_ ?_
  · exact fun hr => List.mem_filter.mpr ⟨hr, by simp [hmkey]⟩
  · exact fun hr => List.mem_filter.mpr ⟨hr, by simp [hmkey]⟩

/-- **A readable record of a move group carries its label.** -/
theorem label?_eq_some_iff (hdistinct : records.Pairwise (·.id ≠ ·.id)) :
    (ofRecords records).label? id = some label ↔
      ∃ r ∈ records, r.id = id ∧ r.flags.readable = true ∧
        MoveGroup records (Fingerprint.ofRecord r) ∧ label = (Fingerprint.ofRecord r).text := by
  constructor
  · exact exists_of_label
  · rintro ⟨r, hr, rfl, hreadable, hgroup, rfl⟩
    obtain ⟨label, hlabel⟩ := exists_label hr hreadable hgroup
    obtain ⟨r', hr', hid, _, _, rfl⟩ := exists_of_label hlabel
    obtain rfl := eq_of_id_eq hdistinct hr' hr hid
    exact hlabel

theorem label?_isSome_iff (hdistinct : records.Pairwise (·.id ≠ ·.id)) :
    ((ofRecords records).label? id).isSome ↔
      ∃ r ∈ records, r.id = id ∧ r.flags.readable = true ∧
        MoveGroup records (Fingerprint.ofRecord r) := by
  rw [Option.isSome_iff_exists]
  simp only [label?_eq_some_iff hdistinct]
  constructor
  · rintro ⟨_, r, hr, hid, hreadable, hgroup, _⟩
    exact ⟨r, hr, hid, hreadable, hgroup⟩
  · rintro ⟨r, hr, hid, hreadable, hgroup⟩
    exact ⟨_, r, hr, hid, hreadable, hgroup, rfl⟩

/-- A record that carries a label carries that of its fingerprint. -/
theorem label?_eq_text (hdistinct : records.Pairwise (·.id ≠ ·.id)) {r : Record}
    (hr : r ∈ records) (h : ((ofRecords records).label? r.id).isSome) :
    (ofRecords records).label? r.id = some (Fingerprint.ofRecord r).text := by
  obtain ⟨label, hlabel⟩ := Option.isSome_iff_exists.mp h
  obtain ⟨r', hr', hid, _, _, rfl⟩ := exists_of_label hlabel
  obtain rfl := eq_of_id_eq hdistinct hr' hr hid
  exact hlabel

/-- Both sides of a possible move belong to its group. -/
theorem moveGroup_of_mayBecome {m q : Record} (hm : m ∈ records) (hq : q ∈ records)
    (h : m.MayBecome q) : MoveGroup records (Fingerprint.ofRecord m) :=
  ⟨⟨m, hm, h.readable, h.missing, rfl⟩,
    ⟨q, hq, h.destinationReadable, h.destinationFound, h.fingerprint⟩⟩

theorem candidates_ne_nil_iff (hdistinct : records.Pairwise (·.id ≠ ·.id)) :
    (ofRecords records).candidates id ≠ [] ↔
      ∃ m ∈ records, m.id = id ∧ ∃ q ∈ records, m.MayBecome q := by
  constructor
  · intro hne
    obtain ⟨d, hd⟩ := List.exists_mem_of_ne_nil _ hne
    obtain ⟨m, hm, q, hq, hid, hmay, _⟩ := (mem_candidates hdistinct).mp hd
    exact ⟨m, hm, hid, q, hq, hmay⟩
  · rintro ⟨m, hm, hid, q, hq, hmay⟩
    exact List.ne_nil_of_mem ((mem_candidates hdistinct).mpr ⟨m, hm, q, hq, hid, hmay, rfl⟩)

/-- A found record has no destinations. -/
theorem candidates_of_found (hdistinct : records.Pairwise (·.id ≠ ·.id)) {q : Record}
    (hq : q ∈ records) (hfound : q.flags.found = true) :
    (ofRecords records).candidates q.id = [] := by
  by_contra hne
  obtain ⟨m, hm, hid, _, _, hmay⟩ := (candidates_ne_nil_iff hdistinct).mp hne
  obtain rfl := eq_of_id_eq hdistinct hm hq hid
  rw [hmay.missing] at hfound
  cases hfound

/-! ### The order of the records -/

theorem MoveGroup.perm {f : Fingerprint} (h : records'.Perm records) (hgroup : MoveGroup records' f) :
    MoveGroup records f := by
  obtain ⟨⟨m, hm, hmissing⟩, ⟨q, hq, hfound⟩⟩ := hgroup
  exact ⟨⟨m, h.mem_iff.mp hm, hmissing⟩, ⟨q, h.mem_iff.mp hq, hfound⟩⟩

theorem candidates_perm_records (hdistinct : records.Pairwise (·.id ≠ ·.id))
    (h : records'.Perm records) (id : RecordId) :
    (ofRecords records').candidates id = (ofRecords records).candidates id := by
  have hdistinct' : records'.Pairwise (·.id ≠ ·.id) :=
    h.symm.pairwise hdistinct fun hne => hne.symm
  refine OrderedMap.eq_of_mem_iff (fun a b hab hba => UInt64.lt_asymm hab hba)
    (candidates_ascending hdistinct' id) (candidates_ascending hdistinct id) fun d => ?_
  rw [mem_candidates hdistinct', mem_candidates hdistinct]
  simp only [h.mem_iff]

/-- **The index does not depend on the order of the records.** -/
theorem ofRecords_perm (hdistinct : records.Pairwise (·.id ≠ ·.id)) (h : records'.Perm records) :
    ofRecords records' = ofRecords records := by
  have hdistinct' : records'.Pairwise (·.id ≠ ·.id) :=
    h.symm.pairwise hdistinct fun hne => hne.symm
  have hdestinations : (ofRecords records').destinations = (ofRecords records).destinations := by
    refine ExtTreeMap.ext_getElem? fun id => ?_
    rw [getElem?_destinations, getElem?_destinations, candidates_perm_records hdistinct h]
  have hlabels : (ofRecords records').labels = (ofRecords records).labels := by
    refine ExtTreeMap.ext_getElem? fun id => Option.ext fun label => ?_
    show (ofRecords records').label? id = some label ↔ (ofRecords records).label? id = some label
    rw [label?_eq_some_iff hdistinct', label?_eq_some_iff hdistinct]
    have hgroup : ∀ f, MoveGroup records' f ↔ MoveGroup records f := fun f =>
      ⟨MoveGroup.perm h, MoveGroup.perm h.symm⟩
    simp only [h.mem_iff, hgroup]
  calc ofRecords records' = ⟨(ofRecords records').destinations, (ofRecords records').labels⟩ := rfl
    _ = ofRecords records := by rw [hdestinations, hlabels]

/-! ### All that is asked of the index -/

/-- What the index of moved files says of the records that it was made from. -/
structure PairsUp (records : List Record) (index : MoveIndex) : Prop where
  /-- a missing record has destinations if there is a found one of its fingerprint -/
  candidates_ne_nil_iff (id : RecordId) : index.candidates id ≠ [] ↔
    ∃ m ∈ records, m.id = id ∧ ∃ q ∈ records, m.MayBecome q
  /-- the destinations are all found records of its fingerprint -/
  mem_candidates_iff (id : RecordId) (d : MoveDestination) : d ∈ index.candidates id ↔
    ∃ m ∈ records, m.id = id ∧ ∃ q ∈ records, m.MayBecome q ∧ MoveDestination.ofRecord q = d
  ascending (id : RecordId) : (index.candidates id).Pairwise (·.recordId < ·.recordId)
  /-- the readable records of a fingerprint with missing and found ones carry a label -/
  label_isSome_iff (id : RecordId) : (index.label? id).isSome ↔
    ∃ r ∈ records, r.id = id ∧ r.flags.readable = true ∧ MoveGroup records (Fingerprint.ofRecord r)
  label_eq_iff : ∀ a ∈ records, ∀ b ∈ records,
    (index.label? a.id).isSome → (index.label? b.id).isSome →
      (index.label? a.id = index.label? b.id ↔ Fingerprint.ofRecord a = Fingerprint.ofRecord b)
  /-- a destination is in the group of the missing record and has no destinations itself -/
  of_destination (id : RecordId) : ∀ d ∈ index.candidates id,
    (index.label? id).isSome ∧ index.label? d.recordId = index.label? id ∧
      index.candidates d.recordId = []

/-- **The index pairs up moved files.**  Where different records have different identifiers, it
says of the records what it should, in whatever order they are given. -/
theorem pairs_up_moved_files {records : List Record} (hdistinct : records.Pairwise (·.id ≠ ·.id)) :
    PairsUp records (ofRecords records) ∧
      ∀ records', records'.Perm records → ofRecords records' = ofRecords records := by
  refine ⟨⟨fun id => candidates_ne_nil_iff hdistinct, fun id d => ?_,
    candidates_ascending hdistinct, fun id => label?_isSome_iff hdistinct, ?_, ?_⟩,
    fun records' h => ofRecords_perm hdistinct h⟩
  · rw [mem_candidates hdistinct]
    constructor
    · rintro ⟨m, hm, q, hq, hid, hmay, hd⟩
      exact ⟨m, hm, hid, q, hq, hmay, hd⟩
    · rintro ⟨m, hm, hid, q, hq, hmay, hd⟩
      exact ⟨m, hm, q, hq, hid, hmay, hd⟩
  · intro a ha b hb hacarries hbcarries
    rw [label?_eq_text hdistinct ha hacarries, label?_eq_text hdistinct hb hbcarries,
      Option.some.injEq, Fingerprint.text_inj]
  · intro id d hd
    obtain ⟨m, hm, q, hq, rfl, hmay, rfl⟩ := (mem_candidates hdistinct).mp hd
    have hgroup := moveGroup_of_mayBecome hm hq hmay
    have hmcarries := (label?_isSome_iff hdistinct).mpr ⟨m, hm, rfl, hmay.readable, hgroup⟩
    have hqcarries := (label?_isSome_iff hdistinct).mpr
      ⟨q, hq, rfl, hmay.destinationReadable, hmay.fingerprint ▸ hgroup⟩
    refine ⟨hmcarries, ?_, candidates_of_found hdistinct hq hmay.destinationFound⟩
    show (ofRecords records).label? q.id = (ofRecords records).label? m.id
    rw [label?_eq_text hdistinct hm hmcarries, label?_eq_text hdistinct hq hqcarries,
      hmay.fingerprint]

/-- Of two files of the same size and duration one is missing; a third one was found at another
length, and a fourth one cannot be read. -/
theorem pairs_up_a_moved_file :
    let records : List Record :=
      [{ id := 9, path := "/new/one.mkv", size := 10, duration := 60, timeBase := 1 },
        { id := 7, path := "/two.mkv", size := 10, duration := 61, timeBase := 1 },
        { id := 4, path := "/old/one.mkv", size := 10, duration := 60, timeBase := 1,
          flags := { found := false } },
        { id := 2, path := "/bad.mkv", size := 10, duration := 60, timeBase := 1,
          flags := { readable := false } }]
    records.Pairwise (·.id ≠ ·.id) ∧
      PairsUp records (ofRecords records) ∧
      (∀ records', records'.Perm records → ofRecords records' = ofRecords records) ∧
      (ofRecords records).candidates 4 ≠ [] ∧ (ofRecords records).candidates 9 = [] ∧
      (ofRecords records).label? 2 = none := by
  intro records
  have hdistinct : records.Pairwise (·.id ≠ ·.id) := by decide +kernel
  have hfound : ∀ r ∈ records, r.id = 9 → r.flags.found = true := by decide +kernel
  have hunreadable : ∀ r ∈ records, r.id = 2 → r.flags.readable = false := by decide +kernel
  obtain ⟨hpairs, hperm⟩ := pairs_up_moved_files hdistinct
  refine ⟨hdistinct, hpairs, hperm, ?_, ?_, ?_⟩
  · exact (hpairs.candidates_ne_nil_iff 4).mpr ⟨records[2], by simp [records], rfl, records[0],
      by simp [records], rfl, rfl, rfl, rfl, rfl⟩
  · by_contra hne
    obtain ⟨m, hm, hid, _, _, hmay⟩ := (hpairs.candidates_ne_nil_iff 9).mp hne
    have hmissing := hmay.missing
    rw [hfound m hm hid] at hmissing
    cases hmissing
  · by_contra hsome
    obtain ⟨r, hr, hid, hreadable, _⟩ :=
      (hpairs.label_isSome_iff 2).mp (Option.isSome_iff_ne_none.mpr hsome)
    rw [hunreadable r hr hid] at hreadable
    cases hreadable

end MoveIndex

end MediaLibrary
