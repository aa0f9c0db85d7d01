/-
How groups cover the records.

By a field, or by a property with a single value, every record has one key, and the groups split
the records: each is in one group and no group is empty.  A record without a value counts as
one with the default.

By a property with several values the groups overlap.  A record is in the group of each value
beyond the path that it holds, once in each even if it holds the value twice; records without
values have a group of their own as long as no path is followed; and those that hold the whole
path are together in front.  So without a path every record is counted at least once, and the
counts add up to the number of records only if none holds two different values.

All of this is said of groupings that keep the groups of single records.
-/
import Mathlib
import MediaLibrary.Proofs.Grouping.Gathered
import MediaLibrary.Proofs.Record.Identified

namespace MediaLibrary

open Std

/-- The records that hold every value of a path. -/
def holdersOf (property : String) (path : List Value) (records : List Record) : List Record :=
  records.filter fun r => ∀ value ∈ path, value ∈ r.values property

/-! ### What covering means -/

/-- The groups split the records by the value that each of them has. -/
structure Splits (valueOf : Record → GroupValue) (records : List Record) (groups : List Group) :
    Prop where
  /-- each value that some record has makes a group of the records with that value -/
  mem_iff (group : Group) : group ∈ groups ↔ ∃ value, (∃ r ∈ records, valueOf r = value) ∧
    group = .ofMembers (some value) false (records.filter (valueOf · = value))
  nodup : groups.Nodup
  nonempty : ∀ group ∈ groups, group.ids ≠ []
  ascending : ∀ group ∈ groups, group.ids.Pairwise (· < ·)
  /-- the groups together list every record once -/
  ids_perm : (groups.flatMap Group.ids).Perm (records.map (·.id))
  sum_count : (groups.map Group.count).sum = records.length

/-- The groups show which of several values the records hold beyond those of a path. -/
structure Overlaps (property : String) (path : List Value) (records : List Record)
    (groups : List Group) : Prop where
  /-- each value outside the path that is held along with it makes a group; the records without
  values make one if there is no path; and those that hold the path make one if there is a path -/
  mem_iff (group : Group) : group ∈ groups ↔
    (∃ value, value ∉ path ∧ (∃ r ∈ holdersOf property path records, value ∈ r.values property) ∧
      group = .ofMembers (some (.property value)) false
        ((holdersOf property path records).filter (value ∈ ·.values property))) ∨
    (path = [] ∧ (∃ r ∈ records, r.values property = []) ∧
      group = .ofMembers none false (records.filter (·.values property = []))) ∨
    (path ≠ [] ∧ group = .ofMembers none true (holdersOf property path records))
  nodup : groups.Nodup
  ascending : ∀ group ∈ groups, group.ids.Pairwise (· < ·)
  length_le_sum : path = [] → records.length ≤ (groups.map Group.count).sum
  sum_eq_iff : path = [] → ((groups.map Group.count).sum = records.length ↔
    ∀ r ∈ records, ∀ a ∈ r.values property, ∀ b ∈ r.values property, a = b)

/-- The groups cover the records as it is fit for what they are grouped by. -/
def Basis.Covers (path : List Value) (records : List Record) (groups : List Group) : Basis → Prop
  | .field f => Splits (fun r => .field (f.valueOf r)) records groups
  | .single property default =>
    Splits (fun r => .property ((r.values property).headD default)) records groups ∧
      ∀ r ∈ records, r.values property = [] →
        (∃ group ∈ groups, r.id ∈ group.ids) ∧
        ∀ group ∈ groups, r.id ∈ group.ids → group.value = some (.property default)
  | .several property => Overlaps property path records groups

/-! ### Groups of single records are kept -/

section

variable {basis : Basis} {g : Grouping} {path : List Value} {records : List Record}
  {group : Group}

theorem mem_groupsOn (hall : g.allowSingletons = true) :
    group ∈ groupsOn basis g path records ↔
      group ∈ basis.pathGroup path records ∨ group ∈ basis.plainGroups path records := by
  rw [groupsOn_eq, List.mem_append, (g.arrange_perm_of_allowSingletons hall _).mem_iff]

theorem groupsOn_perm (hall : g.allowSingletons = true)
    (hnone : basis.hasClassified path = false) :
    (groupsOn basis g path records).Perm (basis.plainGroups path records) := by
  rw [groupsOn_eq, Basis.pathGroup, hnone]
  exact g.arrange_perm_of_allowSingletons hall _

/-- No group is there twice: the values of the plain ones are different. -/
theorem groupsOn_nodup (hall : g.allowSingletons = true) :
    (groupsOn basis g path records).Nodup := by
  rw [groupsOn_eq]
  refine List.nodup_append.mpr ⟨?_, ?_, ?_⟩
  · unfold Basis.pathGroup
    split <;> simp
  · refine (g.arrange_perm_of_allowSingletons hall _).nodup_iff.mpr ?_
    refine List.Nodup.of_map Group.value ?_
    rw [Basis.map_value_plainGroups]
    exact Basis.keysOf_nodup
  · intro a ha b hb heq
    have hb := (g.arrange_perm_of_allowSingletons hall _).mem_iff.mp hb
    have hclassified := Basis.classified_of_mem_pathGroup ha
    rw [heq, Basis.classified_of_mem_plainGroups hb] at hclassified
    cases hclassified

/-- Groups list the records that they are made of in the order in which they were given. -/
theorem ids_sublist_of_mem_groupsOn (hall : g.allowSingletons = true)
    (h : group ∈ groupsOn basis g path records) : group.ids.Sublist (records.map (·.id)) := by
  rcases (mem_groupsOn hall).mp h with hpath | hplain
  · rw [(Basis.mem_pathGroup.mp hpath).2]
    exact List.filter_sublist.map _
  · obtain ⟨key, _, rfl⟩ := Basis.mem_plainGroups.mp hplain
    exact List.filter_sublist.map _

theorem ids_ascending_of_mem_groupsOn (hall : g.allowSingletons = true)
    (hascending : records.Pairwise (·.id < ·.id)) (h : group ∈ groupsOn basis g path records) :
    group.ids.Pairwise (· < ·) :=
  (List.pairwise_map.mpr hascending).sublist (ids_sublist_of_mem_groupsOn hall h)

/-- Without a path, the groups list each record once for each of its keys. -/
theorem flatMap_ids_groupsOn (hall : g.allowSingletons = true)
    (hnone : basis.hasClassified path = false) :
    ((groupsOn basis g path records).flatMap Group.ids).Perm
      (records.flatMap fun r => (basis.keys path r).map fun _ => r.id) :=
  ((groupsOn_perm hall hnone).flatMap_right Group.ids).trans
    (basis.flatMap_ids_plainGroups path records)

/-- Without a path, the counts add up to the number of all keys. -/
theorem sum_count_groupsOn (hall : g.allowSingletons = true)
    (hnone : basis.hasClassified path = false) :
    ((groupsOn basis g path records).map Group.count).sum =
      (records.map fun r => (basis.keys path r).length).sum := by
  have hcount : ((groupsOn basis g path records).map Group.count).sum =
      ((groupsOn basis g path records).flatMap Group.ids).length :=
    List.length_flatMap.symm
  rw [hcount, (flatMap_ids_groupsOn hall hnone).length_eq, List.length_flatMap]
  simp

/-! ### One key for each record -/

/-- Where every record has one key, the groups split the records. -/
theorem splits_groupsOn {valueOf : Record → GroupValue}
    (hkeys : ∀ r, basis.keys path r = [some (valueOf r)])
    (hnone : basis.hasClassified path = false) (hall : g.allowSingletons = true)
    (hascending : records.Pairwise (·.id < ·.id)) :
    Splits valueOf records (groupsOn basis g path records) where
  mem_iff group := by
    have hmembers : ∀ value, basis.membersOf path records (some value) =
        records.filter (valueOf · = value) := by
      intro value
      refine List.filter_congr fun r _ => ?_
      simp [hkeys, eq_comm]
    rw [(groupsOn_perm hall hnone).mem_iff, Basis.mem_plainGroups]
    constructor
    · rintro ⟨key, ⟨r, hr, hkey⟩, rfl⟩
      obtain rfl : key = some (valueOf r) := by simpa [hkeys] using hkey
      exact ⟨valueOf r, ⟨r, hr, rfl⟩, by rw [hmembers]⟩
    · rintro ⟨value, ⟨r, hr, rfl⟩, rfl⟩
      exact ⟨some (valueOf r), ⟨r, hr, by simp [hkeys]⟩, by rw [hmembers]⟩
  nodup := groupsOn_nodup hall
  nonempty group h := by
    have hplain := (groupsOn_perm hall hnone).mem_iff.mp h
    exact List.ne_nil_of_length_pos (Basis.count_pos_of_mem_plainGroups hplain)
  ascending _ h := ids_ascending_of_mem_groupsOn hall hascending h
  ids_perm := by
    refine (flatMap_ids_groupsOn hall hnone).trans (List.Perm.of_eq ?_)
    simp [hkeys, ← List.map_eq_flatMap]
  sum_count := by
    rw [sum_count_groupsOn hall hnone]
    simp [hkeys]

/-- A record is in no group but that of its value. -/
theorem Splits.value_of_mem {valueOf : Record → GroupValue} {groups : List Group}
    (h : Splits valueOf records groups) (hidentified : Identified records) {r : Record}
    (hr : r ∈ records) (hgroup : group ∈ groups) (hmem : r.id ∈ group.ids) :
    group.value = some (valueOf r) := by
  obtain ⟨value, _, rfl⟩ := (h.mem_iff group).mp hgroup
  have hmember := (hidentified.id_mem_map_iff List.filter_sublist.subset hr).mp hmem
  simpa [eq_comm] using (List.mem_filter.mp hmember).2

theorem Splits.exists_group {valueOf : Record → GroupValue} {groups : List Group}
    (h : Splits valueOf records groups) {r : Record} (hr : r ∈ records) :
    ∃ group ∈ groups, r.id ∈ group.ids := by
  have hlisted : r.id ∈ groups.flatMap Group.ids :=
    h.ids_perm.mem_iff.mpr (List.mem_map_of_mem hr)
  exact List.mem_flatMap.mp hlisted

end

/-! ### Several keys for a record -/

namespace Basis

variable {property : String} {path : List Value} {records : List Record}

theorem filter_holdsPath (property : String) (path : List Value) (records : List Record) :
    records.filter ((several property).holdsPath path) = holdersOf property path records := by
  refine List.filter_congr fun r _ => ?_
  rw [Bool.eq_iff_iff]
  simp [holdsPath]

theorem membersOf_value {value : Value} (hnew : value ∉ path) :
    (several property).membersOf path records (some (.property value)) =
      (holdersOf property path records).filter (value ∈ ·.values property) := by
  rw [membersOf, holdersOf, List.filter_filter]
  refine List.filter_congr fun r _ => ?_
  rw [Bool.eq_iff_iff]
  simp [value_mem_keys_several, hnew, and_comm]

theorem membersOf_none :
    (several property).membersOf [] records none = records.filter (·.values property = []) := by
  refine List.filter_congr fun r _ => ?_
  rw [Bool.eq_iff_iff]
  simp [none_mem_keys_several]

theorem pathGroup_several (property : String) (path : List Value) (records : List Record) :
    (several property).pathGroup path records =
      if path = [] then [] else [.ofMembers none true (holdersOf property path records)] := by
  rw [pathGroup, filter_holdsPath]
  cases path <;> rfl

/-- The plain groups are those of the values beyond the path that are held along with it, and
that of the records without values if no path is followed. -/
theorem mem_plainGroups_several {group : Group} :
    group ∈ (several property).plainGroups path records ↔
      (∃ value, value ∉ path ∧ (∃ r ∈ holdersOf property path records, value ∈ r.values property) ∧
        group = .ofMembers (some (.property value)) false
          ((holdersOf property path records).filter (value ∈ ·.values property))) ∨
      (path = [] ∧ (∃ r ∈ records, r.values property = []) ∧
        group = .ofMembers none false (records.filter (·.values property = []))) := by
  rw [mem_plainGroups]
  constructor
  · rintro ⟨key, ⟨r, hr, hkey⟩, rfl⟩
    rcases keys_several_cases hkey with rfl | ⟨value, rfl⟩
    · obtain ⟨rfl, hnone⟩ := none_mem_keys_several.mp hkey
      exact Or.inr ⟨rfl, ⟨r, hr, hnone⟩, by rw [membersOf_none]⟩
    · obtain ⟨hpath, hvalue, hnew⟩ := value_mem_keys_several.mp hkey
      refine Or.inl ⟨value, hnew, ⟨r, ?_, hvalue⟩, by rw [membersOf_value hnew]⟩
      exact List.mem_filter.mpr ⟨hr, by simpa using hpath⟩
  · rintro (⟨value, hnew, ⟨r, hr, hvalue⟩, rfl⟩ | ⟨rfl, ⟨r, hr, hnone⟩, rfl⟩)
    · obtain ⟨hr, hpath⟩ := List.mem_filter.mp hr
      have hpath : ∀ v ∈ path, v ∈ r.values property := by simpa using hpath
      refine ⟨some (.property value), ⟨r, hr, ?_⟩, by rw [membersOf_value hnew]⟩
      exact value_mem_keys_several.mpr ⟨hpath, hvalue, hnew⟩
    · refine ⟨none, ⟨r, hr, ?_⟩, by rw [membersOf_none]⟩
      exact none_mem_keys_several.mpr ⟨rfl, hnone⟩

/-- A record has a key at least where no path is followed, and one alone if it does not hold
two different values. -/
theorem length_keys_several (property : String) (r : Record) :
    1 ≤ ((several property).keys [] r).length ∧
      (((several property).keys [] r).length = 1 ↔
        ∀ a ∈ r.values property, ∀ b ∈ r.values property, a = b) := by
  have hheld : ∀ value, value ∈ remaining [] (r.values property) ↔ value ∈ r.values property := by
    intro value
    simp [mem_remaining]
  have hnodup := remaining_nodup [] (r.values property)
  simp only [keys_several, List.all_nil, if_true, List.isEmpty_nil, ← hheld]
  match remaining [] (r.values property), hnodup with
  | [], _ => simp
  | [value], _ => simp
  | a :: b :: rest, hnodup =>
      have hne : a ≠ b := by
        rintro rfl
        simp at hnodup
      refine ⟨by simp, ⟨fun hone => ?_, fun hsame => ?_⟩⟩
      · simp at hone
      · exact absurd (hsame a (by simp) b (by simp)) hne

end Basis

private theorem sum_eq_length_iff (counts : List Nat) (h : ∀ n ∈ counts, 1 ≤ n) :
    counts.sum = counts.length ↔ ∀ n ∈ counts, n = 1 := by
  induction counts with
  | nil => simp
  | cons n rest ih =>
      have hn := h n (by simp)
      have hrest : ∀ m ∈ rest, 1 ≤ m := fun m hm => h m (by simp [hm])
      have hle := List.length_le_sum_of_one_le rest hrest
      rw [List.sum_cons, List.length_cons, List.forall_mem_cons, ← ih hrest]
      omega

private theorem one_le_keyCounts (property : String) (records : List Record) :
    ∀ n ∈ records.map fun r => ((Basis.several property).keys [] r).length, 1 ≤ n := by
  simpa using fun r _ => (Basis.length_keys_several property r).1

/-- By several values, the groups overlap. -/
theorem overlaps_groupsOn {g : Grouping} {records : List Record} (property : String)
    (path : List Value) (hall : g.allowSingletons = true)
    (hascending : records.Pairwise (·.id < ·.id)) :
    Overlaps property path records (groupsOn (.several property) g path records) where
  mem_iff group := by
    rw [mem_groupsOn hall, Basis.pathGroup_several, Basis.mem_plainGroups_several, or_comm, or_assoc]
    refine or_congr_right (or_congr_right ?_)
    split
    · rename_i hnone
      simp [hnone]
    · rename_i hsome
      simp [hsome]
  nodup := groupsOn_nodup hall
  ascending _ h := ids_ascending_of_mem_groupsOn hall hascending h
  length_le_sum := by
    rintro rfl
    rw [sum_count_groupsOn hall rfl]
    simpa using List.length_le_sum_of_one_le _ (one_le_keyCounts property records)
  sum_eq_iff := by
    rintro rfl
    rw [sum_count_groupsOn hall rfl]
    have hsum := sum_eq_length_iff _ (one_le_keyCounts property records)
    rw [List.length_map] at hsum
    rw [hsum, List.forall_mem_map]
    exact forall₂_congr fun r _ => (Basis.length_keys_several property r).2

/-! ### All records are covered -/

namespace Grouping

/-- **Groups cover the records.**  Where a grouping resolves and keeps the groups of single
records, records in the order of their identifiers have groups, and these split the records or
overlap on them according to what is grouped by. -/
theorem groups_cover_records {c : Catalog} {g : Grouping} {basis : Basis}
    (hbasis : g.basis c = .ok basis) (hall : g.allowSingletons = true) {records : List Record}
    (hascending : records.Pairwise (·.id < ·.id)) (path : List Value) :
    ∃ groups, groupsOf c g path records = .ok groups ∧ basis.Covers path records groups := by
  refine ⟨groupsOn basis g path records, groupsOf_eq hbasis path records, ?_⟩
  cases basis with
  | field f => exact splits_groupsOn (fun _ => rfl) rfl hall hascending
  | single property default =>
      have hsplits : Splits (fun r => .property ((r.values property).headD default)) records
          (groupsOn (.single property default) g path records) :=
        splits_groupsOn (fun _ => rfl) rfl hall hascending
      refine ⟨hsplits, fun r hr hnone => ⟨hsplits.exists_group hr, fun group hgroup hmem => ?_⟩⟩
      have hidentified := identified_of_distinct (distinct_of_ascending hascending)
      rw [hsplits.value_of_mem hidentified hr hgroup hmem, hnone]
      rfl
  | several property => exact overlaps_groupsOn property path hall hascending

/-- Beyond not-a-number, the negative zero makes the only group: a record that holds it twice is
listed once, and one that holds it without the path is not listed. -/
theorem groups_cover_weights :
    let weight : Definition := ⟨"weight", .float, true, none, .float Binary64.zero⟩
    let c := Catalog.ofDefinitions [weight]
    let g : Grouping := { field := "weight", isProperty := true, allowSingletons := true }
    let notANumber := Value.float (Binary64.nan false)
    let negativeZero := Value.float Binary64.negativeZero
    let records : List Record :=
      [({ id := 1 } : Record).setValues "weight" [negativeZero, notANumber, negativeZero],
        ({ id := 2 } : Record).setValues "weight" [negativeZero],
        ({ id := 3 } : Record).setValues "weight" [notANumber],
        { id := 4 }]
    g.basis c = .ok (.several "weight") ∧ g.allowSingletons = true ∧
      records.Pairwise (·.id < ·.id) ∧
      ∃ groups, groupsOf c g [notANumber] records = .ok groups ∧
        groups.map Group.ids = [[1, 3], [1]] ∧
        (Basis.several "weight").Covers [notANumber] records groups := by
  intro weight c g notANumber negativeZero records
  have hdefined : c.get? "weight" = some weight := by decide +kernel
  have hbasis : g.basis c = .ok (.several "weight") := by
    simp only [Grouping.basis, g, if_true, Catalog.require, hdefined]
    rfl
  have hascending : records.Pairwise (·.id < ·.id) := by decide +kernel
  obtain ⟨groups, hgroups, hcovers⟩ :=
    groups_cover_records hbasis rfl hascending [notANumber]
  have hids : (groupsOf c g [notANumber] records).toOption.map (·.map Group.ids) =
      some [[1, 3], [1]] := by decide +kernel
  rw [hgroups] at hids
  exact ⟨hbasis, rfl, hascending, groups, hgroups, Option.some.inj hids, hcovers⟩

end Grouping

end MediaLibrary
