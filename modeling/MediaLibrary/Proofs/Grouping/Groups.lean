/-
Which records a bucket holds.

Records are put into buckets in one pass, and a bucket then holds exactly the records that
have its value among their keys, in their order.  A view does not use the buckets to show
the records of a group; it makes a filter from what the group has in common and selects
again.  The filter accepts the records that have the key.  The one thing to be known about
them is that a property with a single value has no more than one, for the bucket looks at the
first value and the filter at all of them.
-/
import Mathlib.Data.List.Basic
import MediaLibrary.Proofs.Query.Filter
import MediaLibrary.Query.Compile

namespace MediaLibrary

open Std

/-! ### Buckets -/

private theorem ids_foldl_push (records : List Record) :
    ∀ b : Bucket,
      (records.foldl Bucket.push b).ids.toList = b.ids.toList ++ records.map (·.id) := by
  induction records with
  | nil => intro b; simp
  | cons r rest ih =>
      intro b
      rw [List.foldl_cons, ih]
      simp [Bucket.push]

/-- A bucket lists its records in their order. -/
theorem Bucket.ids_ofList (records : List Record) :
    (Bucket.ofList records).ids.toList = records.map (·.id) := by
  rw [Bucket.ofList, ids_foldl_push]
  rfl

namespace Buckets

/-- The bucket of some records, where a bucket without records is not kept. -/
def entry (records : List Record) : Option Bucket :=
  if records = [] then none else some (Bucket.ofList records)

theorem getD_entry (records : List Record) : (entry records).getD {} = Bucket.ofList records := by
  unfold entry
  split
  · rename_i hnil
    rw [hnil]
    rfl
  · rfl

theorem entry_concat (records : List Record) (r : Record) :
    entry (records ++ [r]) = some ((Bucket.ofList records).push r) := by
  unfold entry
  rw [if_neg (by simp), Bucket.ofList, List.foldl_append]
  rfl

/-- A record is added once to the bucket of each of its keys. -/
theorem getElem?_push {r : Record} {key : Option GroupValue} (keys : List (Option GroupValue))
    (hkeys : keys.Nodup) :
    ∀ buckets : Buckets, (buckets.push r keys)[key]? =
      if key ∈ keys then some ((buckets[key]?.getD {}).push r) else buckets[key]? := by
  induction keys with
  | nil => intro buckets; rfl
  | cons first rest ih =>
      intro buckets
      obtain ⟨hfirst, hrest⟩ := List.nodup_cons.mp hkeys
      show (Buckets.push (buckets.insert first ((buckets.getD first {}).push r)) r rest)[key]? = _
      rw [ih hrest, ExtTreeMap.getElem?_insert]
      by_cases heq : first = key
      · subst heq
        rw [if_neg hfirst, if_pos (ReflCmp.compare_self), if_pos (by simp),
          ExtTreeMap.getD_eq_getD_getElem?]
      · have hcmp : ¬bucketOrder first key = .eq := fun hc => heq (LawfulEqCmp.eq_of_compare hc)
        have hmem : key ∈ first :: rest ↔ key ∈ rest := by
          rw [List.mem_cons]
          exact ⟨fun h => h.resolve_left fun hc => heq hc.symm, Or.inr⟩
        simp only [if_neg hcmp, hmem]

private theorem getElem?_foldl_push {keys : Record → List (Option GroupValue)}
    (hkeys : ∀ r, (keys r).Nodup) (key : Option GroupValue) (records : List Record) :
    ∀ (before : List Record) (buckets : Buckets),
      buckets[key]? = entry (before.filter fun r => key ∈ keys r) →
      (records.foldl (fun all r => all.push r (keys r)) buckets)[key]? =
        entry ((before ++ records).filter fun r => key ∈ keys r) := by
  induction records with
  | nil =>
      intro before buckets h
      rw [List.append_nil]
      exact h
  | cons r rest ih =>
      intro before buckets h
      rw [List.foldl_cons, ih (before ++ [r]), List.append_assoc, List.singleton_append]
      rw [getElem?_push _ (hkeys r), h, List.filter_append, getD_entry]
      by_cases hmem : key ∈ keys r
      · rw [if_pos hmem, List.filter_cons_of_pos (by simpa using hmem), List.filter_nil,
          entry_concat]
      · rw [if_neg hmem, List.filter_cons_of_neg (by simpa using hmem), List.filter_nil,
          List.append_nil]

end Buckets

/-- **A bucket holds the records that have its value among their keys.** -/
theorem getElem?_bucketsOf {keys : Record → List (Option GroupValue)}
    (hkeys : ∀ r, (keys r).Nodup) (records : List Record) (key : Option GroupValue) :
    (bucketsOf keys records)[key]? =
      Buckets.entry (records.filter fun r => key ∈ keys r) := by
  have h := Buckets.getElem?_foldl_push hkeys key records [] ∅ (by simp [Buckets.entry])
  rwa [List.nil_append] at h

/-! ### Keys of a record -/

namespace Basis

theorem mem_remaining {path values : List Value} {value : Value} :
    value ∈ remaining path values ↔ value ∈ values ∧ value ∉ path := by
  rw [remaining, ExtTreeSet.mem_toList, ExtTreeSet.mem_ofList, List.contains_iff_mem,
    List.mem_filter, decide_eq_true_eq]

theorem remaining_nodup (path values : List Value) : (remaining path values).Nodup := by
  have hordered : (remaining path values).Pairwise fun a b => compare a b = .lt :=
    ExtTreeSet.ordered_toList
  refine hordered.imp fun {a b} hlt heq => ?_
  rw [heq, ReflOrd.compare_self] at hlt
  cases hlt

theorem keys_several (property : String) (path : List Value) (r : Record) :
    (several property).keys path r =
      if path.all (· ∈ r.values property) then
        match remaining path (r.values property) with
        | [] => if path.isEmpty then [none] else []
        | rest => rest.map fun value => some (.property value)
      else [] := rfl

theorem keys_nodup (basis : Basis) (path : List Value) (r : Record) :
    (basis.keys path r).Nodup := by
  cases basis with
  | field f => simp [keys]
  | single property default => simp [keys]
  | several property =>
      rw [keys_several]
      split
      · split
        · split <;> simp
        · refine List.pairwise_map.mpr ((remaining_nodup path _).imp fun hne heq => hne ?_)
          simpa using heq
      · exact List.nodup_nil

/-- By a property, records are never grouped by a field. -/
theorem keys_several_cases {property : String} {path : List Value} {r : Record}
    {key : Option GroupValue}
    (h : key ∈ (several property).keys path r) :
    key = none ∨ ∃ value, key = some (.property value) := by
  rw [keys_several] at h
  split at h
  · split at h
    · split at h <;> simp at h
      exact Or.inl h
    · obtain ⟨value, _, rfl⟩ := List.mem_map.mp h
      exact Or.inr ⟨value, rfl⟩
  · cases h

/-- By a property with several values, a record belongs to the group of a value beyond the
path if it holds that value and the whole path. -/
theorem value_mem_keys_several {property : String} {path : List Value} {r : Record}
    {value : Value} :
    some (.property value) ∈ (several property).keys path r ↔
      (∀ v ∈ path, v ∈ r.values property) ∧ value ∈ r.values property ∧ value ∉ path := by
  rw [keys_several]
  split
  · rename_i hpath
    have hpath : ∀ v ∈ path, v ∈ r.values property := by simpa using hpath
    rw [← mem_remaining]
    split
    · rename_i hnil
      rw [hnil]
      split <;> simp
    · simpa using fun _ => hpath
  · rename_i hpath
    have hpath : ¬∀ v ∈ path, v ∈ r.values property := by simpa using hpath
    simp [hpath]

/-- A record belongs to the group without a value if it has none and no path was followed. -/
theorem none_mem_keys_several {property : String} {path : List Value} {r : Record} :
    none ∈ (several property).keys path r ↔ path = [] ∧ r.values property = [] := by
  rw [keys_several]
  split
  · split
    · rename_i hnil
      constructor
      · intro hmem
        split at hmem
        · rename_i hempty
          obtain rfl := List.isEmpty_iff.mp hempty
          refine ⟨rfl, List.eq_nil_iff_forall_not_mem.mpr fun value hvalue => ?_⟩
          have hmem : value ∈ remaining [] (r.values property) :=
            mem_remaining.mpr ⟨hvalue, by simp⟩
          rw [hnil] at hmem
          cases hmem
        · cases hmem
      · rintro ⟨rfl, _⟩
        simp
    · rename_i hsome
      constructor
      · intro hmem
        simp at hmem
      · rintro ⟨rfl, hnil⟩
        refine absurd (List.eq_nil_iff_forall_not_mem.mpr fun value hvalue => ?_) hsome
        have hheld := (mem_remaining.mp hvalue).1
        rw [hnil] at hheld
        cases hheld
  · rename_i hpath
    constructor
    · intro hmem
      cases hmem
    · rintro ⟨rfl, _⟩
      simp at hpath

/-! ### Filters of groups -/

/-- The record has as many values of the property as the basis allows. -/
def Fits (r : Record) : Basis → Prop
  | single property _ => (r.values property).length ≤ 1
  | _ => True

/-- The filter of a group depends on what is told about the group. -/
theorem groupFilter_congr (basis : Basis) (path : List Value) {group group' : Group}
    (h : group.summary = group'.summary) :
    basis.groupFilter path group = basis.groupFilter path group' := by
  have hvalue : group.value = group'.value := congrArg GroupSummary.value h
  have hclassified : group.classified = group'.classified := congrArg GroupSummary.classified h
  unfold groupFilter
  rw [hvalue, hclassified]

/-- Of one value at most, the first is the only one. -/
private theorem eq_head_iff {values : List Value} (hfew : values.length ≤ 1)
    (value default : Value) :
    value = values.headD default ↔ value ∈ values ∨ (value = default ∧ values = []) := by
  match values, hfew with
  | [], _ => simp
  | [held], _ => simp

/-- The filter of a bucket's group accepts the records with the bucket's value among their
keys, if there is such a record. -/
theorem accepts_groupFilter {basis : Basis} {path : List Value} {group : Group}
    (hclassified : group.classified = false) {r q : Record} (hfits : basis.Fits r)
    (hq : group.value ∈ basis.keys path q) :
    (basis.groupFilter path group).accepts r = true ↔ group.value ∈ basis.keys path r := by
  cases basis with
  | field f =>
      obtain hvalue : group.value = some (.field (f.valueOf q)) := by simpa [keys] using hq
      simp [groupFilter, hvalue, Filter.accepts, keys, eq_comm]
  | single property default =>
      obtain ⟨value, hvalue⟩ : ∃ value, group.value = some (.property value) :=
        ⟨_, by simpa [keys] using hq⟩
      simp only [groupFilter, hvalue, keys, List.mem_singleton, Option.some.injEq,
        GroupValue.property.injEq]
      rw [eq_head_iff hfits]
      split
      · rename_i hdefault
        simp [Filter.any, Filter.disjuncts?, Filter.accepts, Filter.acceptsSome, hdefault]
      · rename_i hdefault
        simp [Filter.accepts, hdefault]
  | several property =>
      cases hvalue : group.value with
      | none =>
          rw [hvalue, none_mem_keys_several] at hq
          obtain ⟨rfl, _⟩ := hq
          rw [none_mem_keys_several]
          simp [groupFilter, hclassified, hvalue, Filter.accepts]
      | some value =>
          cases value with
          | field value =>
              rw [hvalue, keys_several] at hq
              split at hq
              · split at hq
                · split at hq <;> simp at hq
                · simp at hq
              · cases hq
          | property value =>
              rw [hvalue, value_mem_keys_several] at hq
              obtain ⟨_, _, hnew⟩ := hq
              rw [value_mem_keys_several]
              simp [groupFilter, hclassified, hvalue, Filter.accepts, hnew]

end Basis

/-! ### Records that change -/

/-- The groups depend on the values of the property. -/
def Basis.Reads (property : String) : Basis → Prop
  | field _ => False
  | single read _ => read = property
  | several read => read = property

/-- A record that changed in a way that groups do not notice, though what they are made of may
have changed too: it has the same keys, and the same identifier and length. -/
structure Unnoticed (basis basis' : Basis) (path : List Value) (r r' : Record) : Prop where
  push : ∀ b : Bucket, b.push r' = b.push r
  keys : basis'.keys path r' = basis.keys path r
  holdsPath : basis'.holdsPath path r' = basis.holdsPath path r

/-- **Changes that are not noticed leave the groups.** -/
theorem groupsOn_map {basis basis' : Basis} {path : List Value} {change : Record → Record}
    {records : List Record} (hclassified : basis'.hasClassified path = basis.hasClassified path)
    (h : ∀ r ∈ records, Unnoticed basis basis' path r (change r)) (g : Grouping) :
    groupsOn basis' g path (records.map change) = groupsOn basis g path records := by
  have hofList : ∀ some : List Record, (∀ r ∈ some, r ∈ records) →
      Bucket.ofList (some.map change) = Bucket.ofList some := by
    intro some hsome
    rw [Bucket.ofList, List.foldl_map]
    exact List.foldl_ext _ _ _ fun b r hr => (h r (hsome r hr)).push b
  have hbuckets : bucketsOf (basis'.keys path) (records.map change) =
      bucketsOf (basis.keys path) records := by
    rw [bucketsOf, List.foldl_map]
    refine List.foldl_ext _ _ _ fun all r hr => ?_
    simp only [(h r hr).keys, Buckets.push, (h r hr).push]
  have hpath : (records.map change).filter (basis'.holdsPath path) =
      (records.filter (basis.holdsPath path)).map change := by
    rw [List.filter_map]
    exact congrArg _ (List.filter_congr fun r hr => (h r hr).holdsPath)
  rw [groupsOn, hbuckets, hpath, hofList _ (fun r hr => (List.mem_filter.mp hr).1), hclassified]
  rfl

end MediaLibrary
