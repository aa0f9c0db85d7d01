/-
Plans answer as a pass over all records.

A condition that an index answers is answered exactly, so the candidates of a plan are the
records that meet all such conditions, and the rest of the filter is tried on each of them.
Leaving early where there are no candidates, or where the rest can never be met, leaves
out nothing.  What a plan finds is therefore what a pass over all records finds, whatever
the filter looks like.

What is found has ascending identifiers, none of them zero, so it can be counted with one
number less than there are identifiers.
-/
import MediaLibrary.Proofs.Query.Filter
import MediaLibrary.Proofs.Store.Refinement
import MediaLibrary.Store.Plan

namespace MediaLibrary

open Std

namespace Plan

variable {s : Store}

/-! ### Candidates -/

/-- Whether a record is among some candidates; without candidates every record is. -/
def admits (candidates : Option IdSet) (id : RecordId) : Bool :=
  candidates.all (·.contains id)

theorem admits_narrow (candidates : Option IdSet) (ids : IdSet) (id : RecordId) :
    admits (narrow candidates ids) id = (admits candidates id && ids.contains id) := by
  cases candidates with
  | none => simp [admits, narrow]
  | some candidates => simp [admits, narrow, ExtTreeSet.contains_inter]

theorem admits_foldl_narrow (id : RecordId) (sets : List IdSet) :
    ∀ candidates, admits (sets.foldl narrow candidates) id =
      (admits candidates id && sets.all (·.contains id)) := by
  induction sets with
  | nil => intro candidates; simp
  | cons ids rest ih =>
      intro candidates
      rw [List.foldl_cons, ih, admits_narrow, List.all_cons, Bool.and_assoc]

theorem source_eq (h : s.Sound) (p : Plan) :
    p.source s = s.toList.filter (admits p.candidates ·.id) := by
  unfold source
  cases p.candidates with
  | none => exact (List.filter_eq_self.mpr fun _ _ => rfl).symm
  | some ids => exact h.recordsOf_eq ids

/-! ### Conditions -/

theorem acceptsEach_conditions (r : Record) (filter : Filter) :
    Filter.acceptsEach r (conditions filter) = filter.accepts r := by
  unfold conditions
  split
  · rw [Filter.accepts]
  · simp [Filter.acceptsEach]

/-- An index answers a condition exactly. -/
theorem contains_lookup (h : s.Sound) {r : Record} (hr : r ∈ s.toList) {condition : Filter}
    {ids : IdSet} (hids : lookup? s condition = some ids) :
    ids.contains r.id = condition.accepts r := by
  have hset (holds : Record → Bool) : (s.plain.setWhere holds).contains r.id = holds r := by
    rw [Bool.eq_iff_iff, ExtTreeSet.contains_iff_mem, h.id_mem_setWhere hr]
  unfold lookup? at hids
  split at hids
  · obtain rfl := Option.some.inj hids
    simp [Filter.accepts]
  · obtain rfl := Option.some.inj hids
    rw [Filter.accepts]
  · obtain rfl := Option.some.inj hids
    rw [h.withTag_eq, hset, Filter.accepts]
  · split at hids
    · simp at hids
    · rename_i hne
      obtain rfl := Option.some.inj hids
      rw [h.withTags_eq _ (by simpa using hne), hset, Filter.accepts]
  · simp at hids

/-- The conditions that an index answers and the others make up all conditions. -/
theorem acceptsEach_split (h : s.Sound) {r : Record} (hr : r ∈ s.toList)
    (conditions : List Filter) :
    ((conditions.filterMap (lookup? s)).all (·.contains r.id) &&
        Filter.acceptsEach r (conditions.filter fun c => (lookup? s c).isNone)) =
      Filter.acceptsEach r conditions := by
  induction conditions with
  | nil => simp [Filter.acceptsEach]
  | cons condition rest ih =>
      rw [List.filterMap_cons, List.filter_cons, Filter.acceptsEach, ← ih]
      cases hids : lookup? s condition with
      | none => simp [Filter.acceptsEach, Bool.and_left_comm]
      | some ids =>
          rw [← contains_lookup h hr hids]
          simp [Bool.and_assoc]

/-! ### Running a plan -/

/-- Leaving early leaves nothing out. -/
theorem run_eq (h : s.Sound) (p : Plan) :
    p.run s = s.toList.filter fun r => admits p.candidates r.id && p.residual.accepts r := by
  unfold run
  split
  · rename_i hempty
    symm
    rw [List.filter_eq_nil_iff]
    intro r _ haccepts
    obtain ⟨hadmits, hresidual⟩ := (Bool.and_eq_true _ _).mp haccepts
    rcases (Bool.or_eq_true _ _).mp hempty with hnever | hnone
    · cases hfilter : p.residual with
      | never => simp [hfilter, Filter.accepts] at hresidual
      | _ => simp [hfilter, Filter.isNever] at hnever
    · cases hcandidates : p.candidates with
      | none => simp [hcandidates] at hnone
      | some ids =>
          have hmem : r.id ∈ ids := by simpa [hcandidates, admits] using hadmits
          have hids : ids = ∅ := by simpa [hcandidates] using hnone
          simp [hids] at hmem
  · rw [source_eq h, List.filter_filter]
    refine List.filter_congr fun r _ => ?_
    rw [Bool.and_comm]

end Plan

namespace Store

/-- **Selecting is a pass over all records.** -/
theorem Sound.select_eq {s : Store} (h : s.Sound) (filter : Filter) :
    s.select filter = s.toList.filter fun r => filter.accepts r := by
  rw [Store.select, Plan.run_eq h]
  refine List.filter_congr fun r hr => ?_
  rw [Plan.ofFilter, Filter.accepts_all, Plan.admits_foldl_narrow]
  show (true && _ && _) = _
  rw [Bool.true_and, Plan.acceptsEach_split h hr, Plan.acceptsEach_conditions]

/-! ### Selected records -/

/-- What is selected of changed records are the changed records of what was selected, if the
filters agree on them. -/
theorem Sound.select_map {s s' : Store} (h : s.Sound) (h' : s'.Sound) {change : Record → Record}
    (hrecords : s'.toList = s.toList.map change) {filter filter' : Filter}
    (haccepts : ∀ r ∈ s.toList, filter'.accepts (change r) = filter.accepts r) :
    s'.select filter' = (s.select filter).map change := by
  rw [h'.select_eq, h.select_eq, hrecords, List.filter_map]
  exact congrArg _ (List.filter_congr haccepts)

theorem Sound.mem_select {s : Store} (h : s.Sound) {filter : Filter} {r : Record} :
    r ∈ s.select filter ↔ r ∈ s.toList ∧ filter.accepts r = true := by
  rw [h.select_eq, List.mem_filter]

theorem Sound.select_ascending {s : Store} (h : s.Sound) (filter : Filter) :
    (s.select filter).Pairwise (·.id < ·.id) := by
  rw [h.select_eq]
  exact h.toList_ascending.sublist List.filter_sublist

/-- Ascending identifiers above a number are fewer than the numbers left. -/
private theorem length_le_of_ascending (records : List Record)
    (hascending : records.Pairwise (·.id < ·.id)) :
    ∀ bound : Nat, bound ≤ UInt64.size → (∀ r ∈ records, bound ≤ r.id.toNat) →
      bound + records.length ≤ UInt64.size := by
  induction records with
  | nil => intro bound hbound _; exact hbound
  | cons r rest ih =>
      intro bound _ habove
      obtain ⟨hfirst, hrest⟩ := List.pairwise_cons.mp hascending
      have hr := habove r (by simp)
      have hlt := r.id.toNat_lt_size
      have hle := ih hrest (bound + 1) (by omega) fun q hq => by
        have hrq := UInt64.lt_iff_toNat_lt.mp (hfirst q hq)
        omega
      rw [List.length_cons]
      omega

/-- There are fewer records than identifiers. -/
theorem Sound.length_select_lt {s : Store} (h : s.Sound) (filter : Filter) :
    max (s.select filter).length 1 < UInt64.size := by
  have hle := length_le_of_ascending _ (h.select_ascending filter) 1 (by decide) fun r hr => by
    have hne := (h.given r.id r (h.mem_toList.mp (h.mem_select.mp hr).1)).1
    have hpos : r.id.toNat ≠ 0 := fun hc => hne (UInt64.toNat_inj.mp hc)
    omega
  have hsize : 1 < UInt64.size := by decide
  omega

/-- **Plans and passes agree.**  In every reachable store and for every filter, whatever its
shape, the records that the plan finds are those of the list of all records that the filter
accepts, in the order of their identifiers. -/
theorem select_afterAll (operations : List StoreOperation) (filter : Filter) :
    (afterAll operations).select filter =
        (afterAll operations).toList.filter (fun r => filter.accepts r) ∧
      ((afterAll operations).select filter).Pairwise (·.id < ·.id) := by
  have h := sound_afterAll operations
  refine ⟨h.select_eq filter, ?_⟩
  rw [h.select_eq filter]
  exact h.toList_ascending.sublist List.filter_sublist

end Store

end MediaLibrary
