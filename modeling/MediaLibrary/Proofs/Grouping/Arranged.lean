/-
The order of groups.

Groups are compared by their value, or by their count or their length and then by their value.
`Before` says what that means of two groups.  The plain groups of some records have different
values, so they are always told apart and their order leaves nothing to chance: of two groups
the first one is before the second, and in a reversed view it is after it.  Leaving out groups
of a single record and sorting do not get into each other's way.

The group of the whole path takes no part in any of this.  It is the first one in every
arrangement, however many records it has.
-/
import MediaLibrary.Proofs.Grouping.Gathered
import MediaLibrary.Proofs.OrderedMap

namespace MediaLibrary

open Std

/-! ### Which group is before another -/

/-- The first value is before the second; a missing value is after all others. -/
def ValueBefore : Option GroupValue → Option GroupValue → Prop
  | some a, some b => compare a b = .lt
  | some _, none => True
  | none, _ => False

theorem bucketOrder_eq_lt_iff : ∀ {a b : Option GroupValue},
    bucketOrder a b = .lt ↔ ValueBefore a b
  | some _, some _ => Iff.rfl
  | some _, none => by simp [bucketOrder, ValueBefore]
  | none, some _ => by simp [bucketOrder, ValueBefore]
  | none, none => by simp [bucketOrder, ValueBefore]

namespace GroupOrder

variable {order : GroupOrder} {a b : Group}

/-- The first group is before the second. -/
def Before (order : GroupOrder) (a b : Group) : Prop :=
  match order with
  | byValue => ValueBefore a.value b.value
  | byCount => a.count < b.count ∨ a.count = b.count ∧ ValueBefore a.value b.value
  | byLength => Ord.compare a.length b.length = .lt ∨
      a.length = b.length ∧ ValueBefore a.value b.value

theorem compare_eq_lt_iff : order.compare a b = .lt ↔ order.Before a b := by
  cases order with
  | byValue => exact bucketOrder_eq_lt_iff
  | byCount =>
      rw [compare, Before, Ordering.then_eq_lt, bucketOrder_eq_lt_iff, Nat.compare_eq_lt,
        Nat.compare_eq_eq]
  | byLength =>
      rw [compare, Before, Ordering.then_eq_lt, bucketOrder_eq_lt_iff,
        LawfulEqOrd.compare_eq_iff_eq]

/-- Groups that tie have the same value. -/
theorem value_eq_of_compare (h : order.compare a b = .eq) : a.value = b.value := by
  cases order with
  | byValue => exact eq_of_bucketOrder h
  | byCount => exact eq_of_bucketOrder (Ordering.then_eq_eq.mp h).2
  | byLength => exact eq_of_bucketOrder (Ordering.then_eq_eq.mp h).2

/-- The order of groups by their values alone. -/
private def compareValues (a b : Group) : Ordering :=
  bucketOrder a.value b.value

private instance : TransCmp compareValues where
  eq_swap := bucketOrder_eq_swap _ _
  isLE_trans := bucketOrder_isLE_trans

instance : TransCmp order.compare := by
  cases order with
  | byValue => exact inferInstanceAs (TransCmp compareValues)
  | byCount =>
      exact inferInstanceAs (TransCmp (compareLex (compareOn Group.count) compareValues))
  | byLength =>
      exact inferInstanceAs (TransCmp (compareLex (compareOn Group.length) compareValues))

theorem Before.asymm (h : order.Before a b) : ¬order.Before b a := by
  rw [← compare_eq_lt_iff] at h ⊢
  exact OrientedCmp.not_lt_of_lt h

end GroupOrder

/-! ### Arrangements of groups with different values -/

namespace Grouping

variable {groups : List Group}

theorem arrange_distinct (g : Grouping) (h : (groups.map Group.value).Nodup) :
    ((g.arrange groups).map Group.value).Nodup := by
  refine (((g.arrange_perm groups).map Group.value).nodup_iff).mpr ?_
  exact h.sublist (List.filter_sublist.map _)

/-- A reversed arrangement is the other one, reversed. -/
theorem arrange_reverse (g : Grouping) (groups : List Group) :
    { g with reverse := true }.arrange groups =
      ({ g with reverse := false }.arrange groups).reverse := rfl

/-- **Of two groups the first one is before the second.** -/
theorem arrange_ascending {g : Grouping} (hforward : g.reverse = false)
    (h : (groups.map Group.value).Nodup) : (g.arrange groups).Pairwise g.order.Before := by
  have hne : groups.Pairwise fun a b => g.order.compare a b ≠ .eq := by
    refine (List.pairwise_map.mp h).imp fun {a b} hvalue heq => hvalue ?_
    exact GroupOrder.value_eq_of_compare heq
  have hkept := hne.sublist
    (List.filter_sublist (p := fun group => g.allowSingletons || 1 < group.count))
  unfold arrange
  rw [hforward]
  refine (OrderedMap.pairwise_lt_mergeSort hkept).imp fun {a b} hlt => ?_
  exact GroupOrder.compare_eq_lt_iff.mp hlt

private theorem arrange_without_singletons_of_forward {g : Grouping}
    (hforward : g.reverse = false) (h : (groups.map Group.value).Nodup) :
    { g with allowSingletons := false }.arrange groups =
      ({ g with allowSingletons := true }.arrange groups).filter fun group => 1 < group.count := by
  refine OrderedMap.eq_of_mem_iff (R := g.order.Before) (fun a b hab => hab.asymm) ?_ ?_ ?_
  · exact arrange_ascending (g := { g with allowSingletons := false }) hforward h
  · exact (arrange_ascending (g := { g with allowSingletons := true }) hforward h).sublist
      List.filter_sublist
  · intro group
    rw [List.mem_filter, mem_arrange_iff, mem_arrange_iff]
    simp

/-- Groups of single records may be left out before or after the others are arranged. -/
theorem arrange_without_singletons (g : Grouping) (h : (groups.map Group.value).Nodup) :
    { g with allowSingletons := false }.arrange groups =
      ({ g with allowSingletons := true }.arrange groups).filter fun group => 1 < group.count := by
  obtain ⟨field, isProperty, order, reverse, alone⟩ := g
  cases reverse with
  | false => exact arrange_without_singletons_of_forward rfl h
  | true =>
      -- Both sides are those of the other direction, reversed.
      have hforward := arrange_without_singletons_of_forward
        (g := ⟨field, isProperty, order, false, alone⟩) rfl h
      rw [arrange_reverse ⟨field, isProperty, order, true, false⟩,
        arrange_reverse ⟨field, isProperty, order, true, true⟩, List.filter_reverse]
      exact congrArg List.reverse hforward

end Grouping

/-! ### All arrangements of one grouping -/

/-- The groups that are not that of the whole path. -/
def plainOf (groups : List Group) : List Group :=
  groups.filter (!·.classified)

/-- A path is followed, and what is grouped by is a property that may have several values. -/
def Grouping.FollowsPath (g : Grouping) (c : Catalog) (path : List Value) : Prop :=
  path ≠ [] ∧ g.isProperty = true ∧ ∃ d, c.get? g.field = some d ∧ d.multiple = true

theorem Grouping.hasClassified_iff {c : Catalog} {g : Grouping} {basis : Basis}
    (hbasis : g.basis c = .ok basis) (path : List Value) :
    basis.hasClassified path = true ↔ g.FollowsPath c path := by
  unfold Grouping.basis Catalog.require at hbasis
  unfold FollowsPath
  split at hbasis
  · rename_i hproperty
    cases hget : c.get? g.field with
    | none =>
        rw [hget] at hbasis
        cases hbasis
    | some d =>
        rw [hget] at hbasis
        rw [← Except.ok.inj hbasis]
        cases hmultiple : d.multiple <;> simp [Basis.hasClassified, hmultiple, hproperty]
  · rename_i hfield
    split at hbasis
    · rw [← Except.ok.inj hbasis]
      simp [Basis.hasClassified, hfield]
    · cases hbasis

/-- The groups of one grouping, by their order, whether they are reversed, and whether those of
single records are kept. -/
abbrev Arrangements := GroupOrder → (reverse allowSingletons : Bool) → List Group

/-- What is promised of the arrangements, where `first` is the group of the whole path. -/
structure WellArranged (first : Option Group) (groups : Arrangements) : Prop where
  /-- the group of the path is the first one everywhere, and the only one of its kind -/
  begins (order : GroupOrder) (reverse allowSingletons : Bool) :
    groups order reverse allowSingletons =
      first.toList ++ plainOf (groups order reverse allowSingletons)
  classified : ∀ group ∈ first, group.classified = true
  distinct (order : GroupOrder) (reverse allowSingletons : Bool) :
    ((plainOf (groups order reverse allowSingletons)).map Group.value).Nodup
  ascending (order : GroupOrder) (allowSingletons : Bool) :
    (plainOf (groups order false allowSingletons)).Pairwise order.Before
  reversed (order : GroupOrder) (allowSingletons : Bool) :
    plainOf (groups order true allowSingletons) =
      (plainOf (groups order false allowSingletons)).reverse
  without_singletons (order : GroupOrder) (reverse : Bool) :
    groups order reverse false =
      (groups order reverse true).filter fun group => group.classified || group.count ≠ 1

section

variable {basis : Basis} {path : List Value} {records : List Record}

/-- Of the groups of a basis, the plain ones are those that were arranged. -/
theorem plainOf_groupsOn (g : Grouping) :
    plainOf (groupsOn basis g path records) = g.arrange (basis.plainGroups path records) := by
  rw [groupsOn_eq, plainOf, List.filter_append]
  have hpath : (basis.pathGroup path records).filter (!·.classified) = [] := by
    refine List.filter_eq_nil_iff.mpr fun group h => ?_
    simp [Basis.classified_of_mem_pathGroup h]
  have hplain : (g.arrange (basis.plainGroups path records)).filter (!·.classified) =
      g.arrange (basis.plainGroups path records) := by
    refine List.filter_eq_self.mpr fun group h => ?_
    simp [Basis.classified_of_mem_plainGroups (Grouping.mem_arrange_iff.mp h).1]
  rw [hpath, hplain, List.nil_append]

/-- A plain group has more than one record if it does not have one. -/
theorem one_lt_count_iff {group : Group} (h : group ∈ basis.plainGroups path records) :
    1 < group.count ↔ group.count ≠ 1 := by
  have hpos := Basis.count_pos_of_mem_plainGroups h
  omega

theorem wellArranged_groupsOn (basis : Basis) (g : Grouping) (path : List Value)
    (records : List Record) :
    WellArranged (basis.pathGroup path records).head? fun order reverse allowSingletons =>
      groupsOn basis { g with order, reverse, allowSingletons } path records := by
  have hvalues : ((basis.plainGroups path records).map Group.value).Nodup := by
    rw [Basis.map_value_plainGroups]
    exact Basis.keysOf_nodup
  have hhead : (basis.pathGroup path records).head?.toList = basis.pathGroup path records := by
    unfold Basis.pathGroup
    split <;> rfl
  refine ⟨fun order reverse alone => ?_, fun group h => ?_, fun order reverse alone => ?_,
    fun order alone => ?_, fun order alone => ?_, fun order reverse => ?_⟩
  · rw [plainOf_groupsOn, hhead, groupsOn_eq]
  · exact Basis.classified_of_mem_pathGroup (List.mem_of_head? h)
  · rw [plainOf_groupsOn]
    exact Grouping.arrange_distinct _ hvalues
  · rw [plainOf_groupsOn]
    exact Grouping.arrange_ascending (g := { g with order, reverse := false, allowSingletons := alone })
      rfl hvalues
  · rw [plainOf_groupsOn, plainOf_groupsOn]
    rfl
  · rw [groupsOn_eq, groupsOn_eq, List.filter_append]
    have hpath : (basis.pathGroup path records).filter
        (fun group => group.classified || group.count ≠ 1) = basis.pathGroup path records := by
      refine List.filter_eq_self.mpr fun group h => ?_
      simp [Basis.classified_of_mem_pathGroup h]
    rw [hpath, Grouping.arrange_without_singletons { g with order, reverse } hvalues]
    refine congrArg _ (List.filter_congr fun group h => ?_)
    have hplain := (Grouping.mem_arrange_iff.mp h).1
    simp [Basis.classified_of_mem_plainGroups hplain, one_lt_count_iff hplain]

end

namespace Grouping

/-- **Groups are in their order.**  Where a grouping does not resolve, no arrangement is answered.
Otherwise all of them are, and they are as promised.  The group of the whole path is there if a
path is followed by several values. -/
theorem groups_are_arranged (c : Catalog) (g : Grouping) (path : List Value)
    (records : List Record) :
    (∃ e, g.basis c = .error e ∧ ∀ order reverse allowSingletons,
      groupsOf c { g with order, reverse, allowSingletons } path records = .error e) ∨
    ∃ first groups, (∀ order reverse allowSingletons,
      groupsOf c { g with order, reverse, allowSingletons } path records =
        .ok (groups order reverse allowSingletons)) ∧
      WellArranged first groups ∧ (first.isSome ↔ g.FollowsPath c path) := by
  cases hbasis : g.basis c with
  | error e =>
      refine Or.inl ⟨e, rfl, fun order reverse alone => ?_⟩
      have hsame : { g with order, reverse, allowSingletons := alone }.basis c = .error e := hbasis
      rw [groupsOf, hsame]
      rfl
  | ok basis =>
      refine Or.inr ⟨_, _, fun order reverse alone => ?_, wellArranged_groupsOn basis g path records,
        ?_⟩
      · have hsame : { g with order, reverse, allowSingletons := alone }.basis c = .ok basis :=
          hbasis
        exact groupsOf_eq hsame path records
      · rw [← hasClassified_iff hbasis, Basis.pathGroup]
        split
        · rename_i hhas
          simp [hhas]
        · rename_i hhas
          simp [hhas]

end Grouping

end MediaLibrary
