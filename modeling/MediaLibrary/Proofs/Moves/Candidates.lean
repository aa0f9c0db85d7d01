/-
What the index of moved files lists.

The index is made in one pass over groups of records with one fingerprint, and a group writes
its destinations under each of its missing records.  Where the identifiers of the records are
different, a record is in one group only, so no group overwrites what another one wrote.  The
destinations of a record are then the found records that it may have become, and they are
listed in the order of their identifiers.
-/
import MediaLibrary.Proofs.Moves.Index
import MediaLibrary.Proofs.Record.Identified

namespace MediaLibrary

open Std

/-- The first record is missing, the second one was found, and they may be of the same file. -/
structure Record.MayBecome (m q : Record) : Prop where
  readable : m.flags.readable = true
  missing : m.flags.found = false
  destinationReadable : q.flags.readable = true
  destinationFound : q.flags.found = true
  fingerprint : Fingerprint.ofRecord q = Fingerprint.ofRecord m

namespace MoveIndex

variable {records : List Record} {id : RecordId} {d : MoveDestination}

/-! ### Records of one fingerprint -/

theorem getElem?_byFingerprint (records : List Record) (key : Fingerprint) :
    (byFingerprint records)[key]? =
      if records.filter (Fingerprint.ofRecord · = key) = [] then none
      else some (records.filter (Fingerprint.ofRecord · = key)) := by
  induction records with
  | nil => simp [byFingerprint]
  | cons r rest ih =>
      show ((byFingerprint rest).insert (Fingerprint.ofRecord r)
        (r :: (byFingerprint rest).getD (Fingerprint.ofRecord r) []))[key]? = _
      rw [OrderedMap.getElem?_insert]
      by_cases hkey : Fingerprint.ofRecord r = key
      · subst hkey
        rw [if_pos rfl, List.filter_cons_of_pos (by simp), if_neg (List.cons_ne_nil _ _),
          ExtTreeMap.getD_eq_getD_getElem?, ih]
        split
        · rename_i hnone
          rw [hnone]
          rfl
        · rfl
      · rw [if_neg hkey, List.filter_cons_of_neg (by simpa using hkey), ih]

theorem getElem?_byFingerprint_eq_some {key : Fingerprint} {same : List Record} :
    (byFingerprint records)[key]? = some same ↔
      same = records.filter (Fingerprint.ofRecord · = key) ∧ same ≠ [] := by
  rw [getElem?_byFingerprint]
  split
  · rename_i hnone
    simp [hnone]
  · rename_i hsome
    constructor
    · rintro ⟨⟩
      exact ⟨rfl, hsome⟩
    · rintro ⟨rfl, _⟩
      rfl

/-- A record is among those of its fingerprint. -/
theorem exists_byFingerprint {r : Record} (hr : r ∈ records) :
    ∃ same, (byFingerprint records)[Fingerprint.ofRecord r]? = some same ∧ r ∈ same := by
  have hmem : r ∈ records.filter (Fingerprint.ofRecord · = Fingerprint.ofRecord r) :=
    List.mem_filter.mpr ⟨hr, by simp⟩
  exact ⟨_, getElem?_byFingerprint_eq_some.mpr ⟨rfl, List.ne_nil_of_mem hmem⟩, hmem⟩

/-! ### Groups one after the other -/

/-- The readable records of missing files. -/
def missingOf (records : List Record) : List Record :=
  (records.filter (·.flags.readable)).filter (!·.flags.found)

/-- The readable records of found files in the order of their identifiers. -/
def foundOf (records : List Record) : List Record :=
  ((records.filter (·.flags.readable)).filter (·.flags.found)).mergeSort fun a b => a.id ≤ b.id

/-- The index with the group of some missing records, if it is a move group. -/
def withGroup (found : ExtTreeMap Fingerprint (List Record)) (index : MoveIndex)
    (group : Fingerprint × List Record) : MoveIndex :=
  match found[group.1]? with
  | some found => index.addGroup group.1.text group.2 found
  | none => index

theorem ofRecords_eq (records : List Record) :
    ofRecords records =
      (byFingerprint (missingOf records)).toList.foldl
        (withGroup (byFingerprint (foundOf records))) empty := rfl

/-- What is read of an index was told by the last group that tells anything. -/
structure ToldBy {β : Type} (found : ExtTreeMap Fingerprint (List Record))
    (read : MoveIndex → Option β) (told : Fingerprint × List Record → Option β) : Prop where
  empty : read empty = none
  withGroup (index : MoveIndex) (group : Fingerprint × List Record) :
    read (withGroup found index group) = (told group).or (read index)

namespace ToldBy

variable {β : Type} {read : MoveIndex → Option β} {told : Fingerprint × List Record → Option β}

theorem foldl {found : ExtTreeMap Fingerprint (List Record)} (h : ToldBy found read told)
    (groups : List (Fingerprint × List Record)) :
    ∀ index : MoveIndex, read (groups.foldl (MoveIndex.withGroup found) index) =
      (groups.reverse.findSome? told).or (read index) := by
  induction groups with
  | nil => intro index; rfl
  | cons group rest ih =>
      intro index
      rw [List.foldl_cons, ih, h.withGroup, List.reverse_cons, List.findSome?_append,
        Option.or_assoc]
      congr 2
      simp

theorem read_ofRecords (h : ToldBy (byFingerprint (foundOf records)) read told) :
    read (ofRecords records) =
      (byFingerprint (missingOf records)).toList.reverse.findSome? told := by
  rw [ofRecords_eq, h.foldl, h.empty, Option.or_none]

/-- It was told by the group of a missing record. -/
theorem exists_group (h : ToldBy (byFingerprint (foundOf records)) read told) {b : β}
    (hread : read (ofRecords records) = some b) :
    ∃ m ∈ missingOf records, told (Fingerprint.ofRecord m,
      (missingOf records).filter (Fingerprint.ofRecord · = Fingerprint.ofRecord m)) = some b := by
  rw [h.read_ofRecords] at hread
  obtain ⟨⟨key, same⟩, hgroup, htold⟩ := List.exists_of_findSome?_eq_some hread
  rw [List.mem_reverse, ExtTreeMap.mem_toList_iff_getElem?_eq_some,
    getElem?_byFingerprint_eq_some] at hgroup
  obtain ⟨rfl, hsome⟩ := hgroup
  obtain ⟨m, hm⟩ := List.exists_mem_of_ne_nil _ hsome
  obtain ⟨hmissing, hkey⟩ := List.mem_filter.mp hm
  obtain rfl : Fingerprint.ofRecord m = key := by simpa using hkey
  exact ⟨m, hmissing, htold⟩

/-- If the group of a missing record tells something, then something is read. -/
theorem exists_read (h : ToldBy (byFingerprint (foundOf records)) read told) {m : Record}
    (hm : m ∈ missingOf records) {b : β}
    (htold : told (Fingerprint.ofRecord m,
      (missingOf records).filter (Fingerprint.ofRecord · = Fingerprint.ofRecord m)) = some b) :
    ∃ b', read (ofRecords records) = some b' := by
  obtain ⟨same, hsame, _⟩ := exists_byFingerprint hm
  have hgroup : (Fingerprint.ofRecord m, same) ∈
      (byFingerprint (missingOf records)).toList.reverse :=
    List.mem_reverse.mpr (ExtTreeMap.mem_toList_iff_getElem?_eq_some.mpr hsame)
  obtain ⟨rfl, _⟩ := getElem?_byFingerprint_eq_some.mp hsame
  rw [h.read_ofRecords]
  refine Option.isSome_iff_exists.mp (List.findSome?_isSome_iff.mpr ⟨_, hgroup, ?_⟩)
  rw [htold]
  rfl

end ToldBy

/-- Records that are put under their identifiers with one value. -/
theorem getElem?_foldl_insert {β : Type} (value : β) (these : List Record) :
    ∀ all : ExtTreeMap RecordId β,
      (these.foldl (fun all r => all.insert r.id value) all)[id]? =
        if these.any (·.id = id) then some value else all[id]? := by
  induction these with
  | nil => intro all; rfl
  | cons r rest ih =>
      intro all
      rw [List.foldl_cons, ih, OrderedMap.getElem?_insert, List.any_cons]
      by_cases hrest : rest.any (·.id = id) = true
      · rw [if_pos hrest, if_pos (by rw [hrest, Bool.or_true])]
      · rw [if_neg hrest]
        by_cases hid : r.id = id
        · simp [hid]
        · rw [if_neg hid, if_neg (by simpa [hid] using hrest)]

/-! ### Destinations -/

theorem mem_missingOf {r : Record} :
    r ∈ missingOf records ↔ r ∈ records ∧ r.flags.readable = true ∧ r.flags.found = false := by
  simp [missingOf, and_comm]

theorem mem_foundOf {r : Record} :
    r ∈ foundOf records ↔ r ∈ records ∧ r.flags.readable = true ∧ r.flags.found = true := by
  simp [foundOf, List.mem_mergeSort, and_comm]

/-- Found records are listed in the order of their identifiers. -/
theorem foundOf_ascending (hdistinct : records.Pairwise (·.id ≠ ·.id)) :
    (foundOf records).Pairwise (·.id < ·.id) := by
  have hsorted : (foundOf records).Pairwise fun a b => decide (a.id ≤ b.id) = true := by
    refine List.pairwise_mergeSort (fun a b c hab hbc => ?_) (fun a b => ?_) _
    · exact decide_eq_true (UInt64.le_trans (of_decide_eq_true hab) (of_decide_eq_true hbc))
    · rcases UInt64.le_total a.id b.id with hle | hle
      · simp [hle]
      · simp [hle]
  have hne : (foundOf records).Pairwise (·.id ≠ ·.id) := by
    refine (List.mergeSort_perm _ _).symm.pairwise ?_ fun hne => hne.symm
    exact hdistinct.sublist (List.filter_sublist.trans List.filter_sublist)
  refine (hsorted.and hne).imp fun {a b} ⟨hle, hne⟩ => ?_
  exact UInt64.lt_of_le_of_ne (of_decide_eq_true hle) hne

/-- The destinations that a group of missing records tells of an identifier. -/
private def destinations? (found : ExtTreeMap Fingerprint (List Record)) (id : RecordId)
    (group : Fingerprint × List Record) : Option (List MoveDestination) :=
  if group.2.any (·.id = id) then found[group.1]?.map (·.map MoveDestination.ofRecord) else none

private theorem destinations_told (found : ExtTreeMap Fingerprint (List Record))
    (id : RecordId) : ToldBy found (·.destinations[id]?) (destinations? found id) where
  empty := ExtTreeMap.getElem?_empty
  withGroup index group := by
    unfold withGroup destinations?
    cases found[group.1]? with
    | none => simp
    | some same =>
        show (group.2.foldl _ index.destinations)[id]? = _
        rw [getElem?_foldl_insert]
        split <;> rfl

/-- What is listed under an identifier was told by a group with a missing record that has it. -/
private theorem exists_of_destinations {destinations : List MoveDestination}
    (h : (ofRecords records).destinations[id]? = some destinations) :
    ∃ m ∈ missingOf records, m.id = id ∧ destinations ≠ [] ∧
      destinations = ((foundOf records).filter
        (Fingerprint.ofRecord · = Fingerprint.ofRecord m)).map MoveDestination.ofRecord := by
  obtain ⟨_, _, htold⟩ := (destinations_told _ id).exists_group h
  unfold destinations? at htold
  split at htold
  · rename_i hany
    obtain ⟨m, hm, hid⟩ := List.any_eq_true.mp hany
    obtain ⟨hmissing, hkey⟩ := List.mem_filter.mp hm
    obtain ⟨found, hfound, rfl⟩ := Option.map_eq_some_iff.mp htold
    obtain ⟨rfl, hsome⟩ := getElem?_byFingerprint_eq_some.mp hfound
    refine ⟨m, hmissing, by simpa using hid, by simpa using hsome, ?_⟩
    rw [of_decide_eq_true hkey]
  · cases htold

/-- A missing record that may have become another one has something listed. -/
private theorem exists_destinations {m q : Record} (hm : m ∈ missingOf records)
    (hq : q ∈ foundOf records) (hkey : Fingerprint.ofRecord q = Fingerprint.ofRecord m) :
    ∃ destinations, (ofRecords records).destinations[m.id]? = some destinations := by
  obtain ⟨found, hfound, _⟩ := exists_byFingerprint hq
  rw [hkey] at hfound
  refine (destinations_told _ m.id).exists_read hm (b := found.map MoveDestination.ofRecord) ?_
  have hmem : m ∈ (missingOf records).filter
      (Fingerprint.ofRecord · = Fingerprint.ofRecord m) :=
    List.mem_filter.mpr ⟨hm, by simp⟩
  unfold destinations?
  rw [if_pos (List.any_eq_true.mpr ⟨m, hmem, by simp⟩), hfound]
  rfl

/-- Nothing is kept of a record without destinations. -/
theorem getElem?_destinations (records : List Record) (id : RecordId) :
    (ofRecords records).destinations[id]? =
      if (ofRecords records).candidates id = [] then none
      else some ((ofRecords records).candidates id) := by
  unfold candidates
  rw [ExtTreeMap.getD_eq_getD_getElem?]
  cases hlisted : (ofRecords records).destinations[id]? with
  | none => rfl
  | some destinations =>
      obtain ⟨_, _, _, hne, _⟩ := exists_of_destinations hlisted
      rw [Option.getD_some, if_neg hne]

/-- **The destinations of a record are the found records that it may have become.** -/
theorem mem_candidates (hdistinct : records.Pairwise (·.id ≠ ·.id)) :
    d ∈ (ofRecords records).candidates id ↔
      ∃ m ∈ records, ∃ q ∈ records, m.id = id ∧ m.MayBecome q ∧ MoveDestination.ofRecord q = d := by
  unfold candidates
  rw [ExtTreeMap.getD_eq_getD_getElem?]
  constructor
  · intro hd
    cases hlisted : (ofRecords records).destinations[id]? with
    | none => simp [hlisted] at hd
    | some destinations =>
        obtain ⟨m, hm, hid, _, rfl⟩ := exists_of_destinations hlisted
        rw [hlisted] at hd
        obtain ⟨q, hq, hqd⟩ := List.mem_map.mp hd
        obtain ⟨hq, hkey⟩ := List.mem_filter.mp hq
        obtain ⟨hm, hmreadable, hmissing⟩ := mem_missingOf.mp hm
        obtain ⟨hq, hqreadable, hfound⟩ := mem_foundOf.mp hq
        exact ⟨m, hm, q, hq, hid,
          ⟨hmreadable, hmissing, hqreadable, hfound, by simpa using hkey⟩, hqd⟩
  · rintro ⟨m, hm, q, hq, rfl, hmay, rfl⟩
    have hmissing : m ∈ missingOf records := mem_missingOf.mpr ⟨hm, hmay.readable, hmay.missing⟩
    have hfound : q ∈ foundOf records :=
      mem_foundOf.mpr ⟨hq, hmay.destinationReadable, hmay.destinationFound⟩
    obtain ⟨destinations, hlisted⟩ := exists_destinations hmissing hfound hmay.fingerprint
    -- The group that wrote them has a record with this identifier, so it is that of the record.
    obtain ⟨m', hm', hid, _, rfl⟩ := exists_of_destinations hlisted
    obtain rfl := eq_of_id_eq hdistinct (mem_missingOf.mp hm').1 hm hid
    rw [hlisted]
    refine List.mem_map.mpr ⟨q, List.mem_filter.mpr ⟨hfound, ?_⟩, rfl⟩
    simpa using hmay.fingerprint

/-- **Destinations are listed in the order of their identifiers.** -/
theorem candidates_ascending (hdistinct : records.Pairwise (·.id ≠ ·.id)) (id : RecordId) :
    ((ofRecords records).candidates id).Pairwise (·.recordId < ·.recordId) := by
  unfold candidates
  rw [ExtTreeMap.getD_eq_getD_getElem?]
  cases hlisted : (ofRecords records).destinations[id]? with
  | none => exact List.Pairwise.nil
  | some destinations =>
      obtain ⟨m, _, _, _, rfl⟩ := exists_of_destinations hlisted
      refine List.pairwise_map.mpr ?_
      exact (foundOf_ascending hdistinct).sublist List.filter_sublist

end MoveIndex

/-! ### A move that was resolved -/

/-- The record as it is once its file was found at the place of another one. -/
def Record.movedTo (record destination : Record) : Record :=
  { record with path := destination.path, flags := destination.flags }

/-- The destination as it is listed once the missing record has taken the place of the found
one. -/
def MoveDestination.follow (missing found : RecordId) (d : MoveDestination) : MoveDestination :=
  if d.recordId = found then { d with recordId := missing } else d

/-- The records after a move: the missing record took over the file of the found one, which is
gone. -/
structure Resolved (records records' : List Record) (record destination : Record) : Prop where
  distinct : records.Pairwise (·.id ≠ ·.id)
  distinct' : records'.Pairwise (·.id ≠ ·.id)
  record_mem : record ∈ records
  destination_mem : destination ∈ records
  mayBecome : record.MayBecome destination
  mem : ∀ r, r ∈ records' ↔
    r = record.movedTo destination ∨ r ∈ records ∧ r.id ≠ record.id ∧ r.id ≠ destination.id

namespace Resolved

open MoveIndex

variable {records records' : List Record} {record destination : Record} {id : RecordId}

/-- A found record does not have the identifier of the missing one. -/
theorem id_ne (h : Resolved records records' record destination) {q : Record} (hq : q ∈ records)
    (hfound : q.flags.found = true) : q.id ≠ record.id := by
  intro hid
  obtain rfl := eq_of_id_eq h.distinct hq h.record_mem hid
  rw [h.mayBecome.missing] at hfound
  cases hfound

/-- A missing record does not have the identifier of the found one. -/
theorem id_ne' (h : Resolved records records' record destination) {m : Record} (hm : m ∈ records)
    (hmissing : m.flags.found = false) : m.id ≠ destination.id := by
  intro hid
  obtain rfl := eq_of_id_eq h.distinct hm h.destination_mem hid
  rw [h.mayBecome.destinationFound] at hmissing
  cases hmissing

/-- The record is not missing any more. -/
theorem candidates_missing (h : Resolved records records' record destination) :
    (ofRecords records').candidates record.id = [] := by
  refine List.eq_nil_iff_forall_not_mem.mpr fun d hd => ?_
  obtain ⟨m, hm, q, _, hid, hmay, _⟩ := (mem_candidates h.distinct').mp hd
  rcases (h.mem m).mp hm with rfl | ⟨_, hne, _⟩
  · have hfound : (record.movedTo destination).flags.found = true := h.mayBecome.destinationFound
    rw [hmay.missing] at hfound
    cases hfound
  · exact hne hid

/-- The moved record is what the found one was to other missing records. -/
theorem mayBecome_movedTo_iff (h : Resolved records records' record destination) {m : Record} :
    m.MayBecome (record.movedTo destination) ↔ m.MayBecome destination := by
  have hsame : Fingerprint.ofRecord (record.movedTo destination) =
      Fingerprint.ofRecord destination := h.mayBecome.fingerprint.symm
  constructor
  · intro hmay
    exact ⟨hmay.readable, hmay.missing, h.mayBecome.destinationReadable,
      h.mayBecome.destinationFound, hsame.symm.trans hmay.fingerprint⟩
  · intro hmay
    exact ⟨hmay.readable, hmay.missing, hmay.destinationReadable, hmay.destinationFound,
      hsame.trans hmay.fingerprint⟩

theorem follow_destination :
    (MoveDestination.ofRecord destination).follow record.id destination.id =
      MoveDestination.ofRecord (record.movedTo destination) :=
  if_pos rfl

theorem follow_of_ne {q : Record} (hne : q.id ≠ destination.id) :
    (MoveDestination.ofRecord q).follow record.id destination.id = MoveDestination.ofRecord q :=
  if_neg hne

/-- Other missing records list what they listed, with the one record for the other. -/
theorem mem_candidates_iff (h : Resolved records records' record destination)
    (hid : id ≠ record.id) {d : MoveDestination} :
    d ∈ (ofRecords records').candidates id ↔
      d ∈ ((ofRecords records).candidates id).map (·.follow record.id destination.id) := by
  rw [List.mem_map, mem_candidates h.distinct']
  constructor
  · rintro ⟨m, hm, q, hq, rfl, hmay, rfl⟩
    have hm : m ∈ records := by
      rcases (h.mem m).mp hm with rfl | ⟨hm, _⟩
      · exact absurd rfl hid
      · exact hm
    rcases (h.mem q).mp hq with rfl | ⟨hq, _, hne⟩
    · refine ⟨_, (mem_candidates h.distinct).mpr ⟨m, hm, destination, h.destination_mem, rfl, ?_,
        rfl⟩, follow_destination⟩
      exact h.mayBecome_movedTo_iff.mp hmay
    · exact ⟨_, (mem_candidates h.distinct).mpr ⟨m, hm, q, hq, rfl, hmay, rfl⟩, follow_of_ne hne⟩
  · rintro ⟨_, hlisted, rfl⟩
    obtain ⟨m, hm, q, hq, rfl, hmay, rfl⟩ := (mem_candidates h.distinct).mp hlisted
    have hm' : m ∈ records' := (h.mem m).mpr (.inr ⟨hm, hid, h.id_ne' hm hmay.missing⟩)
    by_cases hq' : q.id = destination.id
    · obtain rfl := eq_of_id_eq h.distinct hq h.destination_mem hq'
      exact ⟨m, hm', record.movedTo q, (h.mem _).mpr (.inl rfl), rfl,
        h.mayBecome_movedTo_iff.mpr hmay, follow_destination.symm⟩
    · exact ⟨m, hm', q, (h.mem q).mpr (.inr ⟨hq, h.id_ne hq hmay.destinationFound, hq'⟩), rfl,
        hmay, (follow_of_ne hq').symm⟩

/-- No two destinations become the same. -/
theorem nodup_follow (h : Resolved records records' record destination) (id : RecordId) :
    (((ofRecords records).candidates id).map (·.follow record.id destination.id)).Nodup := by
  refine List.pairwise_map.mpr ?_
  refine (candidates_ascending h.distinct id).imp_of_mem fun {a b} ha hb hlt hsame => ?_
  have hother : ∀ d ∈ (ofRecords records).candidates id, d.recordId ≠ record.id := by
    intro d hd
    obtain ⟨m, _, q, hq, _, hmay, rfl⟩ := (mem_candidates h.distinct).mp hd
    exact h.id_ne hq hmay.destinationFound
  have hids := congrArg MoveDestination.recordId hsame
  unfold MoveDestination.follow at hids
  by_cases hafound : a.recordId = destination.id
  · by_cases hbfound : b.recordId = destination.id
    · rw [hafound, hbfound] at hlt
      exact UInt64.lt_irrefl _ hlt
    · rw [if_pos hafound, if_neg hbfound] at hids
      exact hother b hb hids.symm
  · by_cases hbfound : b.recordId = destination.id
    · rw [if_neg hafound, if_pos hbfound] at hids
      exact hother a ha hids
    · rw [if_neg hafound, if_neg hbfound] at hids
      rw [hids] at hlt
      exact UInt64.lt_irrefl _ hlt

/-- **What other missing records list after a move.** -/
theorem candidates_perm (h : Resolved records records' record destination)
    (hid : id ≠ record.id) :
    ((ofRecords records').candidates id).Perm
      (((ofRecords records).candidates id).map (·.follow record.id destination.id)) := by
  have hnodup : ((ofRecords records').candidates id).Nodup :=
    (candidates_ascending h.distinct' id).imp fun hlt heq => by
      rw [heq] at hlt
      exact UInt64.lt_irrefl _ hlt
  exact (List.perm_ext_iff_of_nodup hnodup (h.nodup_follow id)).mpr fun d =>
    h.mem_candidates_iff hid

/-- A list without the found record is as it was. -/
theorem candidates_eq (h : Resolved records records' record destination) (hid : id ≠ record.id)
    (hother : ∀ d ∈ (ofRecords records).candidates id, d.recordId ≠ destination.id) :
    (ofRecords records').candidates id = (ofRecords records).candidates id := by
  have hsame : ((ofRecords records).candidates id).map (·.follow record.id destination.id) =
      (ofRecords records).candidates id := by
    refine (List.map_congr_left fun d hd => ?_).trans (List.map_id _)
    exact if_neg (hother d hd)
  refine OrderedMap.eq_of_mem_iff (fun a b hab hba => UInt64.lt_asymm hab hba)
    (candidates_ascending h.distinct' id) (candidates_ascending h.distinct id) fun d => ?_
  rw [h.mem_candidates_iff hid, hsame]

end Resolved

end MediaLibrary
