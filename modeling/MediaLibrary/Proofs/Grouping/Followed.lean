/-
A path that is followed one value further.

Whoever chooses the group of a value beyond the path sees its records again as the group of the
longer path, and beside it what the other groups have in common with the chosen one.  The groups
are made anew each time and nothing of the earlier ones is kept, so this has to be compared
level by level: the values that remain, the records that hold the whole path, and the group
without a value, which is there on the first level only.

What two groups share is said of records first, since different records might have the same
identifier.  Where an identifier belongs to one record, it can be read off the two lists of
identifiers.

The order in which the values of a path were chosen plays no part.
-/
import MediaLibrary.Proofs.Grouping.Covered

namespace MediaLibrary

open Std

/-- The records that hold a value along with a path. -/
def holdersAlong (property : String) (path : List Value) (records : List Record)
    (value : Value) : List Record :=
  (holdersOf property path records).filter (value ∈ ·.values property)

/-- The records that two values have in common beyond a path. -/
def sharedAlong (property : String) (path : List Value) (records : List Record)
    (value other : Value) : List Record :=
  (holdersAlong property path records value).filter
    (· ∈ holdersAlong property path records other)

section

variable {property : String} {path : List Value} {records : List Record} {value other : Value}

theorem mem_holdersAlong {r : Record} :
    r ∈ holdersAlong property path records value ↔
      r ∈ holdersOf property path records ∧ value ∈ r.values property := by
  simp [holdersAlong]

theorem holdersOf_concat (property : String) (path : List Value) (records : List Record)
    (value : Value) :
    holdersOf property (path ++ [value]) records = holdersAlong property path records value := by
  rw [holdersAlong, holdersOf, holdersOf, List.filter_filter]
  refine List.filter_congr fun r _ => ?_
  rw [Bool.eq_iff_iff]
  simp [or_imp, forall_and, and_comm]

/-- Of the records with the one value, those with the other one are shared. -/
theorem filter_holdersAlong (property : String) (path : List Value) (records : List Record)
    (value other : Value) :
    (holdersAlong property path records value).filter (other ∈ ·.values property) =
      sharedAlong property path records value other := by
  refine List.filter_congr fun r hr => ?_
  have hpath := (mem_holdersAlong.mp hr).1
  rw [Bool.eq_iff_iff]
  simp [mem_holdersAlong, hpath]

theorem sharedAlong_ne_nil_iff :
    sharedAlong property path records value other ≠ [] ↔
      ∃ r ∈ holdersAlong property path records value, other ∈ r.values property := by
  rw [← filter_holdersAlong]
  simp [List.filter_eq_nil_iff]

/-- Where an identifier belongs to one record, what two lists of records share is told by their
identifiers. -/
theorem ids_sharedAlong (h : Identified records) :
    (sharedAlong property path records value other).map (·.id) =
      ((holdersAlong property path records value).map (·.id)).filter
        (· ∈ (holdersAlong property path records other).map (·.id)) := by
  have hsubset : ∀ v, holdersAlong property path records v ⊆ records := fun v =>
    (List.filter_sublist.trans List.filter_sublist).subset
  rw [List.filter_map, sharedAlong]
  refine congrArg _ (List.filter_congr fun r hr => ?_)
  have hlisted := h.id_mem_map_iff (hsubset other) (hsubset value hr)
  simpa using hlisted.symm

end

/-! ### The next level -/

/-- How the groups beside the chosen one look once its value was followed. -/
structure FollowedBy (property : String) (path : List Value) (records : List Record)
    (groups : List Group) (chosen : Group) (value : Value) (beside : List Group) : Prop where
  /-- each other group that shares a record with the chosen one leaves what they share -/
  mem_iff (group : Group) : group ∈ beside ↔
    ∃ other ∈ groups, other.classified = false ∧
      ∃ w, other.value = some (.property w) ∧ w ∉ path ∧ w ≠ value ∧
        sharedAlong property path records value w ≠ [] ∧
        group = .ofMembers (some (.property w)) false (sharedAlong property path records value w)
  nodup : beside.Nodup
  /-- an identifier that belongs to one record is shared if both groups list it -/
  ids_shared : Identified records → ∀ other ∈ groups, other.classified = false →
    ∀ w, other.value = some (.property w) →
      (sharedAlong property path records value w).map (·.id) =
        chosen.ids.filter (· ∈ other.ids)

section

variable {property : String} {path : List Value} {records : List Record} {value : Value}
  {g : Grouping} {group : Group}

/-- The plain group of a value has the records that hold it along with the path. -/
theorem eq_of_mem_groupsOn_several (hall : g.allowSingletons = true)
    (h : group ∈ groupsOn (.several property) g path records)
    (hplain : group.classified = false) (hvalue : group.value = some (.property value)) :
    value ∉ path ∧ group = .ofMembers (some (.property value)) false
      (holdersAlong property path records value) := by
  rcases (mem_groupsOn hall).mp h with hpath | hplain'
  · rw [Basis.classified_of_mem_pathGroup hpath] at hplain
    cases hplain
  · rcases Basis.mem_plainGroups_several.mp hplain' with ⟨w, hnew, _, rfl⟩ | ⟨_, _, rfl⟩
    · obtain rfl : w = value := by simpa using hvalue
      exact ⟨hnew, rfl⟩
    · cases hvalue

/-- A value beyond the path that some record holds along with it has a group. -/
theorem mem_groupsOn_of_held (hall : g.allowSingletons = true) (hnew : value ∉ path)
    (hheld : holdersAlong property path records value ≠ []) :
    .ofMembers (some (.property value)) false (holdersAlong property path records value) ∈
      groupsOn (.several property) g path records := by
  obtain ⟨r, hr⟩ := List.exists_mem_of_ne_nil _ hheld
  refine (mem_groupsOn hall).mpr (Or.inr (Basis.mem_plainGroups_several.mpr (Or.inl ?_)))
  exact ⟨value, hnew, ⟨r, mem_holdersAlong.mp hr⟩, rfl⟩

/-- The plain groups one value further are made of what is shared with that value. -/
theorem mem_plainGroups_concat :
    group ∈ (Basis.several property).plainGroups (path ++ [value]) records ↔
      ∃ w, w ∉ path ∧ w ≠ value ∧ sharedAlong property path records value w ≠ [] ∧
        group = .ofMembers (some (.property w)) false
          (sharedAlong property path records value w) := by
  rw [Basis.mem_plainGroups_several, holdersOf_concat]
  simp [filter_holdersAlong, sharedAlong_ne_nil_iff, and_assoc]

/-- One value further, the chosen group is in front and the others are narrowed to it. -/
theorem groupsOn_concat {chosen : Group} (hall : g.allowSingletons = true)
    (hchosen : chosen ∈ groupsOn (.several property) g path records)
    (hplain : chosen.classified = false) (hvalue : chosen.value = some (.property value)) :
    ∃ beside, groupsOn (.several property) g (path ++ [value]) records =
        { chosen with value := none, classified := true } :: beside ∧
      FollowedBy property path records (groupsOn (.several property) g path records) chosen value
        beside := by
  obtain ⟨_, hmembers⟩ := eq_of_mem_groupsOn_several hall hchosen hplain hvalue
  have harranged : ∀ group,
      group ∈ g.arrange ((Basis.several property).plainGroups (path ++ [value]) records) ↔
        group ∈ (Basis.several property).plainGroups (path ++ [value]) records := fun group =>
    (g.arrange_perm_of_allowSingletons hall _).mem_iff
  refine ⟨g.arrange ((Basis.several property).plainGroups (path ++ [value]) records), ?_,
    fun group => ?_, ?_, fun hidentified other hother hother' w hw => ?_⟩
  · rw [groupsOn_eq, Basis.pathGroup_several, if_neg (by simp), holdersOf_concat, hmembers]
    rfl
  · rw [harranged, mem_plainGroups_concat]
    constructor
    · rintro ⟨w, hnew, hne, hshared, rfl⟩
      -- A record that is shared has put the other group there.
      obtain ⟨r, hr, hheld⟩ := sharedAlong_ne_nil_iff.mp hshared
      have hother : r ∈ holdersAlong property path records w :=
        mem_holdersAlong.mpr ⟨(mem_holdersAlong.mp hr).1, hheld⟩
      have hother := mem_groupsOn_of_held hall hnew (List.ne_nil_of_mem hother)
      exact ⟨_, hother, rfl, w, rfl, hnew, hne, hshared, rfl⟩
    · rintro ⟨_, _, _, w, _, hnew, hne, hshared, rfl⟩
      exact ⟨w, hnew, hne, hshared, rfl⟩
  · have hnodup : (groupsOn (.several property) g (path ++ [value]) records).Nodup :=
      groupsOn_nodup hall
    rw [groupsOn_eq] at hnodup
    exact (List.nodup_append.mp hnodup).2.1
  · obtain ⟨_, rfl⟩ := eq_of_mem_groupsOn_several hall hother hother' hw
    rw [ids_sharedAlong hidentified, hmembers]
    rfl

end

/-! ### The order in which a path was followed -/

theorem Basis.keys_perm {path path' : List Value} (h : path.Perm path') (basis : Basis)
    (r : Record) : basis.keys path r = basis.keys path' r := by
  cases basis with
  | several property =>
      have hremaining : remaining path (r.values property) =
          remaining path' (r.values property) := by
        simp only [remaining, h.mem_iff]
      rw [keys_several, keys_several, h.all_eq, hremaining, h.isEmpty_eq]
  | _ => rfl

theorem Basis.pathGroup_perm {path path' : List Value} (h : path.Perm path') (basis : Basis)
    (records : List Record) : basis.pathGroup path records = basis.pathGroup path' records := by
  cases basis with
  | several property =>
      have hholders : holdersOf property path records = holdersOf property path' records := by
        simp only [holdersOf, h.mem_iff]
      have hnil : path = [] ↔ path' = [] := by
        rw [← List.length_eq_zero_iff, h.length_eq, List.length_eq_zero_iff]
      simp only [pathGroup_several, hholders, hnil]
  | _ => rfl

theorem groupsOf_perm {path path' : List Value} (h : path.Perm path') (c : Catalog)
    (g : Grouping) (records : List Record) :
    groupsOf c g path records = groupsOf c g path' records := by
  unfold groupsOf
  refine congrArg (fun groups => Except.map groups _) (funext fun basis => ?_)
  rw [groupsOn_eq, groupsOn_eq, basis.pathGroup_perm h, Basis.plainGroups, Basis.plainGroups]
  simp only [Basis.keysOf, Basis.membersOf, basis.keys_perm h]

namespace Grouping

/-- A grouping by a property that may have several values groups by them. -/
theorem groupsOf_several {c : Catalog} {g : Grouping} {d : Definition}
    (hproperty : g.isProperty = true) (hget : c.get? g.field = some d)
    (hmultiple : d.multiple = true) (path : List Value) (records : List Record) :
    groupsOf c g path records = .ok (groupsOn (.several d.name) g path records) := by
  have hbasis : g.basis c = .ok (.several d.name) := by
    simp only [basis, hproperty, if_true, Catalog.require, hget, hmultiple]
  exact groupsOf_eq hbasis path records

/-- **Following a path narrows the groups.**  By a property that may have several values, a
plain group that was chosen becomes the group of the path, and the others leave what they share
with it.  In whatever order the values of a path were chosen, the groups are the same. -/
theorem following_a_path_narrows_groups {c : Catalog} {g : Grouping} {d : Definition}
    (hproperty : g.isProperty = true) (hget : c.get? g.field = some d)
    (hmultiple : d.multiple = true) (hall : g.allowSingletons = true) (path : List Value)
    (records : List Record) :
    (∃ groups, groupsOf c g path records = .ok groups ∧
      ∀ chosen ∈ groups, chosen.classified = false →
        ∀ value, chosen.value = some (.property value) →
          ∃ beside, groupsOf c g (path ++ [value]) records =
              .ok ({ chosen with value := none, classified := true } :: beside) ∧
            FollowedBy d.name path records groups chosen value beside) ∧
      ∀ g' path', path'.Perm path → groupsOf c g' path' records = groupsOf c g' path records := by
  have hgroups := fun path => groupsOf_several hproperty hget hmultiple path records
  refine ⟨⟨_, hgroups path, fun chosen hchosen hplain value hvalue => ?_⟩,
    fun g' path' hperm => groupsOf_perm hperm c g' records⟩
  obtain ⟨beside, hbeside, hfollowed⟩ := groupsOn_concat hall hchosen hplain hvalue
  exact ⟨beside, by rw [hgroups, hbeside], hfollowed⟩

/-- Identifiers alone do not tell what two groups share.  Two records with one identifier put it
into the groups of both genres, but no record with that identifier is of both. -/
theorem shared_identifiers_hide_records :
    let genre : Definition := ⟨"genre", .str, true, none, .str ""⟩
    let c := Catalog.ofDefinitions [genre]
    let g : Grouping := { field := "genre", isProperty := true, allowSingletons := true }
    let noir := Value.str "noir"
    let war := Value.str "war"
    let records : List Record :=
      [({ id := 1 } : Record).setValues "genre" [noir],
        ({ id := 1 } : Record).setValues "genre" [war],
        ({ id := 2 } : Record).setValues "genre" [noir, war]]
    g.isProperty = true ∧ c.get? g.field = some genre ∧ genre.multiple = true ∧
      g.allowSingletons = true ∧ sharedAlong "genre" [] records noir war ≠ [] ∧
      ∃ groups narrowed, groupsOf c g [] records = .ok groups ∧
        groupsOf c g [noir] records = .ok narrowed ∧
        ∃ chosen ∈ groups, chosen.classified = false ∧ chosen.value = some (.property noir) ∧
          ∃ other ∈ groups, other.classified = false ∧ other.value = some (.property war) ∧
            ∀ group ∈ narrowed, group.value = other.value →
              ∃ id ∈ chosen.ids, id ∈ other.ids ∧ id ∉ group.ids := by
  intro genre c g noir war records
  have hget : c.get? "genre" = some genre := by decide +kernel
  have hgroups := fun path => groupsOf_several (g := g) rfl hget rfl path records
  have hheld : ∀ value ∈ [noir, war], holdersAlong "genre" [] records value ≠ [] := by
    decide +kernel
  refine ⟨rfl, hget, rfl, rfl, by decide +kernel, _, _, hgroups [], hgroups [noir],
    _, mem_groupsOn_of_held rfl (by simp) (hheld noir (by simp)), rfl, rfl,
    _, mem_groupsOn_of_held rfl (by simp) (hheld war (by simp)), rfl, rfl, ?_⟩
  decide +kernel

/-- Of three records of one genre, two have the other genre too; a fourth record has only that
one. -/
theorem following_a_genre_narrows_groups :
    let genre : Definition := ⟨"genre", .str, true, none, .str ""⟩
    let c := Catalog.ofDefinitions [genre]
    let g : Grouping := { field := "genre", isProperty := true, allowSingletons := true }
    let noir := Value.str "noir"
    let records : List Record :=
      [({ id := 1 } : Record).setValues "genre" [noir, .str "war"],
        ({ id := 2 } : Record).setValues "genre" [noir],
        ({ id := 3 } : Record).setValues "genre" [.str "war", noir, noir],
        ({ id := 4 } : Record).setValues "genre" [.str "war"]]
    g.isProperty = true ∧ c.get? g.field = some genre ∧ genre.multiple = true ∧
      g.allowSingletons = true ∧ Identified records ∧
      ∃ groups chosen beside, groupsOf c g [] records = .ok groups ∧ chosen ∈ groups ∧
        chosen.ids = [1, 2, 3] ∧
        groupsOf c g [noir] records =
          .ok ({ chosen with value := none, classified := true } :: beside) ∧
        FollowedBy "genre" [] records groups chosen noir beside ∧
        ∃ group ∈ beside, group.value = some (.property (.str "war")) ∧ group.ids = [1, 3] := by
  intro genre c g noir records
  have hget : c.get? "genre" = some genre := by decide +kernel
  have hidentified : Identified records :=
    identified_of_distinct (show records.Pairwise (·.id ≠ ·.id) by decide +kernel)
  obtain ⟨⟨groups, hgroups, hnarrowed⟩, _⟩ :=
    following_a_path_narrows_groups (g := g) rfl hget rfl rfl [] records
  have hsame : groupsOn (.several "genre") g [] records = groups := by
    rw [groupsOf_several (g := g) rfl hget rfl] at hgroups
    exact Except.ok.inj hgroups
  -- The first record is of both genres, so each of them has a group and they share it.
  have hheld : ∀ value ∈ [noir, .str "war"], holdersAlong "genre" [] records value ≠ [] := by
    decide +kernel
  have hmem : ∀ value ∈ [noir, .str "war"], .ofMembers (some (.property value)) false
      (holdersAlong "genre" [] records value) ∈ groups := by
    intro value hvalue
    rw [← hsame]
    exact mem_groupsOn_of_held rfl (by simp) (hheld value hvalue)
  obtain ⟨beside, hbeside, hfollowed⟩ := hnarrowed _ (hmem noir (by simp)) rfl noir rfl
  refine ⟨rfl, hget, rfl, rfl, hidentified, groups, _, beside, hgroups, hmem noir (by simp), ?_,
    hbeside, hfollowed, _, (hfollowed.mem_iff _).mpr ⟨_, hmem (.str "war") (by simp), rfl, .str "war",
      rfl, by simp, by simp [noir], ?_, rfl⟩, rfl, ?_⟩
  · decide +kernel
  · decide +kernel
  · decide +kernel

end Grouping

end MediaLibrary
