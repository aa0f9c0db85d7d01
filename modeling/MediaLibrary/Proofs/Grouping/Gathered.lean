/-
What groups are made of.

A group is told by its value and its members: it lists the identifiers of its members in their
order and adds up their lengths.  `groupsOn_eq` puts the groups of some records in that form.
There is one for each key that some record has, the members are the records that have it, and
the group of the whole path comes in front of them.  Whatever is said of groups elsewhere is
said of keys and members here, and no bucket is opened again.  So the records that a group lists
are those that its filter accepts, as it is tried on them by a view.

A record is listed once for each of its keys, so all the groups together list the records as
often as they have keys.  That is the one count from which sums over groups are derived.
-/
import Mathlib.Data.List.Perm.Basic
import MediaLibrary.Proofs.Grouping.Groups

namespace MediaLibrary

open Std

/-- The sum of the lengths of some records, taken in their order. -/
def lengthOf (records : List Record) : Binary64 :=
  records.foldl (fun sum r => sum.add r.length) Binary64.zero

/-- The group of its members: it lists them in their order. -/
def Group.ofMembers (value : Option GroupValue) (classified : Bool) (members : List Record) :
    Group :=
  ⟨value, classified, members.map (·.id), lengthOf members⟩

namespace Group

variable {value : Option GroupValue} {classified : Bool} {members : List Record}

@[simp] theorem value_ofMembers : (ofMembers value classified members).value = value := rfl

@[simp] theorem classified_ofMembers :
    (ofMembers value classified members).classified = classified := rfl

@[simp] theorem ids_ofMembers :
    (ofMembers value classified members).ids = members.map (·.id) := rfl

@[simp] theorem length_ofMembers :
    (ofMembers value classified members).length = lengthOf members := rfl

@[simp] theorem count_ofMembers :
    (ofMembers value classified members).count = members.length := by
  simp [count]

end Group

/-! ### Buckets -/

private theorem length_foldl_push (records : List Record) :
    ∀ b : Bucket, (records.foldl Bucket.push b).length =
      records.foldl (fun sum r => sum.add r.length) b.length := by
  induction records with
  | nil => intro b; rfl
  | cons r rest ih => intro b; exact ih (b.push r)

/-- The bucket of some records makes their group. -/
theorem Bucket.group_ofList (members : List Record) (value : Option GroupValue)
    (classified : Bool) :
    (Bucket.ofList members).group value classified = .ofMembers value classified members := by
  have hids := Bucket.ids_ofList members
  have hlength : (Bucket.ofList members).length = lengthOf members :=
    length_foldl_push members {}
  rw [Bucket.group, hids, hlength]
  rfl

namespace Basis

variable {basis : Basis} {path : List Value} {records : List Record} {key : Option GroupValue}
  {group : Group}

/-- The records that have a key. -/
def membersOf (basis : Basis) (path : List Value) (records : List Record)
    (key : Option GroupValue) : List Record :=
  records.filter fun r => key ∈ basis.keys path r

@[simp] theorem mem_membersOf {r : Record} :
    r ∈ basis.membersOf path records key ↔ r ∈ records ∧ key ∈ basis.keys path r := by
  simp [membersOf]

theorem membersOf_ne_nil_iff :
    basis.membersOf path records key ≠ [] ↔ ∃ r ∈ records, key ∈ basis.keys path r := by
  simp [membersOf, List.filter_eq_nil_iff]

/-- The keys of some records, each once and in their order. -/
def keysOf (basis : Basis) (path : List Value) (records : List Record) :
    List (Option GroupValue) :=
  (bucketsOf (basis.keys path) records).keys

/-- Some record has the key. -/
theorem mem_keysOf : key ∈ basis.keysOf path records ↔ ∃ r ∈ records, key ∈ basis.keys path r := by
  rw [keysOf, ExtTreeMap.mem_keys, ExtTreeMap.mem_iff_isSome_getElem?,
    getElem?_bucketsOf (basis.keys_nodup path), ← membersOf_ne_nil_iff, Buckets.entry, membersOf]
  split
  · rename_i hnone
    simp [hnone]
  · rename_i hsome
    simpa using hsome

theorem keysOf_nodup : (basis.keysOf path records).Nodup :=
  ExtTreeMap.nodup_keys

/-- The groups of the keys, in the order of the keys. -/
def plainGroups (basis : Basis) (path : List Value) (records : List Record) : List Group :=
  (basis.keysOf path records).map fun key =>
    .ofMembers key false (basis.membersOf path records key)

/-- The group of the records that hold the whole path, where there is one. -/
def pathGroup (basis : Basis) (path : List Value) (records : List Record) : List Group :=
  if basis.hasClassified path then
    [.ofMembers none true (records.filter (basis.holdsPath path))]
  else []

theorem map_buckets (basis : Basis) (path : List Value) (records : List Record) :
    ((bucketsOf (basis.keys path) records).toList.map fun (key, bucket) =>
      bucket.group key false) = basis.plainGroups path records := by
  rw [plainGroups, keysOf, ← ExtTreeMap.map_fst_toList_eq_keys, List.map_map]
  refine List.map_congr_left fun entry hentry => ?_
  obtain ⟨key, bucket⟩ := entry
  rw [ExtTreeMap.mem_toList_iff_getElem?_eq_some, getElem?_bucketsOf (basis.keys_nodup path),
    Buckets.entry] at hentry
  split at hentry
  · cases hentry
  · obtain rfl := Option.some.inj hentry
    exact Bucket.group_ofList _ key false

theorem mem_plainGroups : group ∈ basis.plainGroups path records ↔
    ∃ key, (∃ r ∈ records, key ∈ basis.keys path r) ∧
      group = .ofMembers key false (basis.membersOf path records key) := by
  simp [plainGroups, mem_keysOf, eq_comm]

theorem mem_pathGroup : group ∈ basis.pathGroup path records ↔
    basis.hasClassified path = true ∧
      group = .ofMembers none true (records.filter (basis.holdsPath path)) := by
  unfold pathGroup
  split
  · rename_i hhas
    simp [hhas]
  · rename_i hhas
    simp [hhas]

theorem map_value_plainGroups :
    (basis.plainGroups path records).map Group.value = basis.keysOf path records := by
  simp [plainGroups, Function.comp_def]

theorem classified_of_mem_plainGroups (h : group ∈ basis.plainGroups path records) :
    group.classified = false := by
  obtain ⟨key, _, rfl⟩ := mem_plainGroups.mp h
  rfl

theorem classified_of_mem_pathGroup (h : group ∈ basis.pathGroup path records) :
    group.classified = true := by
  rw [(mem_pathGroup.mp h).2, Group.classified_ofMembers]

theorem count_pos_of_mem_plainGroups (h : group ∈ basis.plainGroups path records) :
    0 < group.count := by
  obtain ⟨key, hkey, rfl⟩ := mem_plainGroups.mp h
  rw [Group.count_ofMembers, List.length_pos_iff]
  exact membersOf_ne_nil_iff.mpr hkey

/-! ### How often a record is listed -/

/-- Of the keys of all records, those of one record are its own. -/
private theorem filter_keysOf_perm {r : Record} (hr : r ∈ records) :
    ((basis.keysOf path records).filter (· ∈ basis.keys path r)).Perm (basis.keys path r) := by
  refine (List.perm_ext_iff_of_nodup (keysOf_nodup.filter _) (basis.keys_nodup path r)).mpr ?_
  intro key
  simp only [List.mem_filter, decide_eq_true_eq, and_iff_right_iff_imp, mem_keysOf]
  exact fun hkey => ⟨r, hr, hkey⟩

private theorem flatMap_ite_mem (all some : List (Option GroupValue)) (id : RecordId) :
    (all.flatMap fun key => if key ∈ some then [id] else []) =
      (all.filter (· ∈ some)).map fun _ => id := by
  induction all with
  | nil => rfl
  | cons key rest ih =>
      rw [List.flatMap_cons, ih]
      by_cases hkey : key ∈ some <;> simp [hkey]

/-- A record adds its identifier to the group of each of its keys. -/
private theorem flatMap_members_perm (all : List (Option GroupValue)) (some : List Record)
    (hall : ∀ r ∈ some, (all.filter (· ∈ basis.keys path r)).Perm (basis.keys path r)) :
    (all.flatMap fun key => (basis.membersOf path some key).map (·.id)).Perm
      (some.flatMap fun r => (basis.keys path r).map fun _ => r.id) := by
  induction some with
  | nil => simp [membersOf]
  | cons r rest ih =>
      have hsplit : ∀ key, (basis.membersOf path (r :: rest) key).map (·.id) =
          (if key ∈ basis.keys path r then [r.id] else []) ++
            (basis.membersOf path rest key).map (·.id) := by
        intro key
        by_cases hkey : key ∈ basis.keys path r <;> simp [membersOf, hkey]
      simp only [hsplit, List.flatMap_cons]
      refine (List.flatMap_append_perm all _ _).symm.trans (List.Perm.append ?_ ?_)
      · rw [flatMap_ite_mem]
        exact (hall r (by simp)).map _
      · exact ih fun q hq => hall q (by simp [hq])

/-- **A record is listed once for each of its keys.** -/
theorem flatMap_ids_plainGroups (basis : Basis) (path : List Value) (records : List Record) :
    ((basis.plainGroups path records).flatMap Group.ids).Perm
      (records.flatMap fun r => (basis.keys path r).map fun _ => r.id) := by
  rw [plainGroups, List.flatMap_map]
  exact flatMap_members_perm _ records fun r hr => filter_keysOf_perm hr

end Basis

/-! ### Groups that are arranged -/

/-- Arranging groups may leave out those of a single record, and nothing else. -/
theorem Grouping.arrange_perm (g : Grouping) (groups : List Group) :
    (g.arrange groups).Perm
      (groups.filter fun group => g.allowSingletons || 1 < group.count) := by
  unfold arrange
  dsimp only
  split
  · exact (List.reverse_perm _).trans (List.mergeSort_perm _ _)
  · exact List.mergeSort_perm _ _

theorem Grouping.arrange_perm_of_allowSingletons {g : Grouping} (h : g.allowSingletons = true)
    (groups : List Group) : (g.arrange groups).Perm groups := by
  refine (g.arrange_perm groups).trans (List.Perm.of_eq ?_)
  simp [h]

theorem Grouping.mem_arrange_iff {g : Grouping} {groups : List Group} {group : Group} :
    group ∈ g.arrange groups ↔
      group ∈ groups ∧ (g.allowSingletons = true ∨ 1 < group.count) := by
  rw [(g.arrange_perm groups).mem_iff, List.mem_filter]
  simp

/-- **What groups are made of.**  The group of the path is followed by those of the keys, which
are arranged. -/
theorem groupsOn_eq (basis : Basis) (g : Grouping) (path : List Value) (records : List Record) :
    groupsOn basis g path records =
      basis.pathGroup path records ++ g.arrange (basis.plainGroups path records) := by
  rw [groupsOn, Basis.map_buckets, Bucket.group_ofList]
  rfl

/-- A grouping that resolves groups by what it resolves to. -/
theorem groupsOf_eq {c : Catalog} {g : Grouping} {basis : Basis} (h : g.basis c = .ok basis)
    (path : List Value) (records : List Record) :
    groupsOf c g path records = .ok (groupsOn basis g path records) := by
  rw [groupsOf, h]
  rfl

/-- **A group holds the records that its filter accepts**, in the order in which they were
given. -/
theorem ids_of_mem_groupsOn {basis : Basis} {g : Grouping} {path : List Value}
    {records : List Record} (hfits : ∀ r ∈ records, basis.Fits r) {group : Group}
    (h : group ∈ groupsOn basis g path records) :
    group.ids =
      (records.filter fun r => (basis.groupFilter path group).accepts r).map (·.id) := by
  rw [groupsOn_eq] at h
  rcases List.mem_append.mp h with hpath | harranged
  · obtain ⟨hhas, rfl⟩ := Basis.mem_pathGroup.mp hpath
    -- The filter of this group is the condition by which it was made.
    cases basis with
    | several property => rfl
    | _ => cases hhas
  · have hplain := (Grouping.mem_arrange_iff.mp harranged).1
    obtain ⟨key, ⟨q, _, hq⟩, rfl⟩ := Basis.mem_plainGroups.mp hplain
    refine congrArg _ (List.filter_congr fun r hr => ?_)
    rw [Bool.eq_iff_iff, decide_eq_true_iff]
    exact Iff.symm (Basis.accepts_groupFilter rfl (hfits r hr) hq)

end MediaLibrary
