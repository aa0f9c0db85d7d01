/-
What looking records up answers.

In a sound store every lookup is a pass over the records.  An index covers the records,
so its entry for a key is the ascending list of the identifiers whose records have the
key, and there is no entry where that list is empty.  Everything that is asked of an
index is answered by its entries: one of them, several combined, or all that belong to
one property.
-/
import MediaLibrary.Proofs.Store.Plain
import MediaLibrary.Proofs.Store.Sound

namespace MediaLibrary

open Std

/-! ### Combining sets -/

namespace Combination

private theorem mem_foldl_inter {id : RecordId} (sets : List IdSet) :
    ∀ first : IdSet, id ∈ sets.foldl (· ∩ ·) first ↔ id ∈ first ∧ ∀ set ∈ sets, id ∈ set := by
  induction sets with
  | nil => intro first; simp
  | cons set rest ih =>
      intro first
      rw [List.foldl_cons, ih, ExtTreeSet.mem_inter_iff, List.forall_mem_cons, and_assoc]

private theorem mem_foldl_union {id : RecordId} (sets : List IdSet) :
    ∀ first : IdSet, id ∈ sets.foldl (· ∪ ·) first ↔ id ∈ first ∨ ∃ set ∈ sets, id ∈ set := by
  induction sets with
  | nil => intro first; simp
  | cons set rest ih =>
      intro first
      rw [List.foldl_cons, ih, ExtTreeSet.mem_union_iff, or_assoc]
      simp only [List.mem_cons, exists_eq_or_imp]

/-- No sets hold no records, so this asks for one set at least. -/
theorem mem_all {id : RecordId} {sets : List IdSet} (hne : sets ≠ []) :
    id ∈ all.of sets ↔ ∀ set ∈ sets, id ∈ set := by
  cases sets with
  | nil => exact absurd rfl hne
  | cons first rest =>
      show id ∈ rest.foldl (· ∩ ·) first ↔ _
      rw [mem_foldl_inter, List.forall_mem_cons]

theorem mem_any {id : RecordId} {sets : List IdSet} :
    id ∈ any.of sets ↔ ∃ set ∈ sets, id ∈ set := by
  cases sets with
  | nil => simp [Combination.of]
  | cons first rest =>
      show id ∈ rest.foldl (· ∪ ·) first ↔ _
      rw [mem_foldl_union]
      simp only [List.mem_cons, exists_eq_or_imp]

end Combination

namespace Store

variable {s : Store}

/-! ### Passing over the records -/

theorem Sound.mem_toList (h : s.Sound) {r : Record} :
    r ∈ s.toList ↔ s.records[r.id]? = some r :=
  OrderedMap.mem_values h.keyed

theorem Sound.toList_ascending (h : s.Sound) : s.toList.Pairwise (·.id < ·.id) := by
  have hkeys : (s.toList.map Record.id).Pairwise (compare · · = .lt) := by
    rw [show s.toList.map Record.id = s.records.keys from OrderedMap.map_key_values h.keyed]
    exact ExtTreeMap.ordered_keys
  exact (List.pairwise_map.mp hkeys).imp fun hlt => compare_eq_lt.mp hlt

theorem Sound.mem_idsWhere (h : s.Sound) {holds : Record → Bool} {id : RecordId} :
    id ∈ s.plain.idsWhere holds ↔ ∃ r, s.records[id]? = some r ∧ holds r := by
  constructor
  · intro hid
    obtain ⟨r, hr, rfl⟩ := List.mem_map.mp hid
    obtain ⟨hr, hholds⟩ := List.mem_filter.mp hr
    exact ⟨r, h.mem_toList.mp hr, hholds⟩
  · rintro ⟨r, hr, hholds⟩
    obtain rfl : r.id = id := h.keyed id r hr
    exact List.mem_map.mpr ⟨r, List.mem_filter.mpr ⟨h.mem_toList.mpr hr, hholds⟩, rfl⟩

theorem Sound.idsWhere_ascending (h : s.Sound) (holds : Record → Bool) :
    IdList.Ascending (s.plain.idsWhere holds) :=
  List.pairwise_map.mpr (h.toList_ascending.sublist List.filter_sublist)

theorem Sound.mem_setWhere (h : s.Sound) {holds : Record → Bool} {id : RecordId} :
    id ∈ s.plain.setWhere holds ↔ ∃ r, s.records[id]? = some r ∧ holds r := by
  rw [PlainStore.setWhere, ExtTreeSet.mem_ofList, List.contains_iff_mem, h.mem_idsWhere]

/-- A record that is kept is in such a set if it meets the condition. -/
theorem Sound.id_mem_setWhere (h : s.Sound) {holds : Record → Bool} {r : Record}
    (hr : r ∈ s.toList) : r.id ∈ s.plain.setWhere holds ↔ holds r = true := by
  have hr := h.mem_toList.mp hr
  rw [h.mem_setWhere]
  simp [hr]

/-- The records with some identifiers are found by a pass too. -/
theorem Sound.recordsOf_eq (h : s.Sound) (ids : IdSet) :
    s.recordsOf ids = s.toList.filter (ids.contains ·.id) := by
  have hasymm : ∀ a b : Record, a.id < b.id → ¬b.id < a.id :=
    fun _ _ hab hba => UInt64.lt_irrefl _ (UInt64.lt_trans hab hba)
  refine OrderedMap.eq_of_mem_iff hasymm ?_ (h.toList_ascending.sublist List.filter_sublist) ?_
  · refine List.pairwise_filterMap.mpr (ExtTreeSet.ordered_toList.imp fun hlt r hr q hq => ?_)
    rw [h.keyed _ r hr, h.keyed _ q hq]
    exact compare_eq_lt.mp hlt
  · intro r
    rw [recordsOf, List.mem_filterMap, List.mem_filter, h.mem_toList, ExtTreeSet.contains_iff_mem]
    constructor
    · rintro ⟨id, hid, hr⟩
      obtain rfl : r.id = id := h.keyed id r hr
      exact ⟨hr, ExtTreeSet.mem_toList.mp hid⟩
    · rintro ⟨hr, hid⟩
      exact ⟨r.id, ExtTreeSet.mem_toList.mpr hid, hr⟩

theorem Sound.recordsOf_setWhere (h : s.Sound) (holds : Record → Bool) :
    s.recordsOf (s.plain.setWhere holds) = s.toList.filter holds := by
  rw [h.recordsOf_eq]
  refine List.filter_congr fun r hr => ?_
  rw [Bool.eq_iff_iff, ExtTreeSet.contains_iff_mem, h.id_mem_setWhere hr]

/-! ### Entries of an index -/

section

variable {κ : Type} {keysOf : Record → List κ} {key : κ} {holds : Record → Bool}

private theorem Sound.mem_idsWhere_iff_key (h : s.Sound)
    (hkey : ∀ r, key ∈ keysOf r ↔ holds r = true) (id : RecordId) :
    id ∈ s.plain.idsWhere holds ↔ ∃ r, s.records[id]? = some r ∧ key ∈ keysOf r := by
  simp only [hkey]
  exact h.mem_idsWhere

variable [Ord κ] [TransOrd κ] {index : Index κ}

/-- The entry of a key is what a pass over the records finds, if it finds anything. -/
theorem Sound.entry_eq (h : s.Sound) (hcovers : index.Covers keysOf s.records)
    (hkey : ∀ r, key ∈ keysOf r ↔ holds r = true) :
    index[key]? = if s.plain.idsWhere holds = [] then none
      else some ⟨s.plain.idsWhere holds⟩ :=
  hcovers.getElem?_eq (h.idsWhere_ascending holds) (h.mem_idsWhere_iff_key hkey)

theorem Sound.lookup_eq (h : s.Sound) (hcovers : index.Covers keysOf s.records)
    (hkey : ∀ r, key ∈ keysOf r ↔ holds r = true) :
    index.lookup key = s.plain.setWhere holds := by
  unfold Index.lookup PlainStore.setWhere IdList.toSet
  congr 1
  exact (hcovers.ascending key).eq_of_mem_iff (h.idsWhere_ascending holds) fun id =>
    (hcovers.mem key id).trans (h.mem_idsWhere_iff_key hkey id).symm

end

theorem Sound.tag_entry (h : s.Sound) (property : String) (value : Value) :
    s.tags[(⟨property, value⟩ : Tag)]? =
      if s.plain.idsWhere (value ∈ ·.values property) = [] then none
      else some ⟨s.plain.idsWhere (value ∈ ·.values property)⟩ :=
  h.entry_eq h.tags fun r => by simp [Record.mem_tags]

theorem Sound.term_entry (h : s.Sound) (term : String) :
    s.terms[term]? = if s.plain.idsWhere (term ∈ ·.terms) = [] then none
      else some ⟨s.plain.idsWhere (term ∈ ·.terms)⟩ :=
  h.entry_eq h.terms fun r => by simp

/-! ### Sets of records -/

theorem Sound.withTag_eq (h : s.Sound) (property : String) (value : Value) :
    s.withTag property value = s.plain.setWhere (value ∈ ·.values property) :=
  h.lookup_eq h.tags fun r => by simp [Record.mem_tags]

theorem Sound.withTerm_eq (h : s.Sound) (term : String) :
    s.withTerm term = s.plain.setWhere (term ∈ ·.terms) :=
  h.lookup_eq h.terms fun r => by simp

/-- A record is in all of the sets that conditions select exactly when it meets all of the
conditions. -/
private theorem Sound.all_of_setWhere (h : s.Sound) {α : Type} {keys : List α} (hne : keys ≠ [])
    (holds : α → Record → Bool) :
    Combination.all.of (keys.map fun key => s.plain.setWhere (holds key)) =
      s.plain.setWhere fun r => keys.all (holds · r) := by
  refine ExtTreeSet.ext_mem fun id => ?_
  rw [Combination.mem_all (by simpa using hne), h.mem_setWhere]
  simp only [List.forall_mem_map, h.mem_setWhere, List.all_eq_true]
  constructor
  · intro hall
    obtain ⟨key, rest, rfl⟩ := List.exists_cons_of_ne_nil hne
    obtain ⟨r, hr, _⟩ := hall key (by simp)
    refine ⟨r, hr, fun k hk => ?_⟩
    obtain ⟨q, hq, hholds⟩ := hall k hk
    rw [hr] at hq
    exact Option.some.inj hq ▸ hholds
  · rintro ⟨r, hr, hall⟩ key hkey
    exact ⟨r, hr, hall key hkey⟩

private theorem Sound.any_of_setWhere (h : s.Sound) {α : Type} (keys : List α)
    (holds : α → Record → Bool) :
    Combination.any.of (keys.map fun key => s.plain.setWhere (holds key)) =
      s.plain.setWhere fun r => keys.any (holds · r) := by
  refine ExtTreeSet.ext_mem fun id => ?_
  rw [Combination.mem_any, h.mem_setWhere]
  simp only [List.any_eq_true]
  constructor
  · rintro ⟨set, hset, hid⟩
    obtain ⟨key, hkey, rfl⟩ := List.mem_map.mp hset
    obtain ⟨r, hr, hholds⟩ := h.mem_setWhere.mp hid
    exact ⟨r, hr, key, hkey, hholds⟩
  · rintro ⟨r, hr, key, hkey, hholds⟩
    exact ⟨_, List.mem_map.mpr ⟨key, hkey, rfl⟩, h.mem_setWhere.mpr ⟨r, hr, hholds⟩⟩

theorem Sound.withTags_eq (h : s.Sound) (property : String) {values : List Value}
    (hne : values ≠ []) :
    s.withTags property values =
      s.plain.setWhere fun r => values.all (· ∈ r.values property) := by
  rw [withTags, funext (h.withTag_eq property)]
  exact h.all_of_setWhere hne fun value r => value ∈ r.values property

theorem Sound.withTerms_all_eq (h : s.Sound) {terms : List String} (hne : terms ≠ []) :
    s.withTerms terms .all = s.plain.setWhere fun r => terms.all (· ∈ r.terms) := by
  rw [withTerms, funext h.withTerm_eq]
  exact h.all_of_setWhere hne fun term r => term ∈ r.terms

theorem Sound.withTerms_any_eq (h : s.Sound) (terms : List String) :
    s.withTerms terms .any = s.plain.setWhere fun r => terms.any (· ∈ r.terms) := by
  rw [withTerms, funext h.withTerm_eq]
  exact h.any_of_setWhere terms fun term r => term ∈ r.terms

/-! ### The entries of a property -/

theorem mem_tagEntries {property : String} {value : Value} {list : IdList} :
    (value, list) ∈ s.tagEntries property ↔ s.tags[(⟨property, value⟩ : Tag)]? = some list := by
  unfold tagEntries
  constructor
  · intro hmem
    obtain ⟨⟨⟨p, v⟩, ids⟩, hfiltered, heq⟩ := List.mem_map.mp hmem
    obtain ⟨hentry, hp⟩ := List.mem_filter.mp hfiltered
    obtain rfl : p = property := by simpa using hp
    obtain ⟨rfl, rfl⟩ : v = value ∧ ids = list := by simpa using heq
    exact ExtTreeMap.mem_toList_iff_getElem?_eq_some.mp hentry
  · intro hentry
    refine List.mem_map.mpr ⟨(⟨property, value⟩, list), List.mem_filter.mpr ⟨?_, by simp⟩, rfl⟩
    exact ExtTreeMap.mem_toList_iff_getElem?_eq_some.mpr hentry

/-- Tags of the same property are in the order of their values. -/
theorem tagEntries_ordered (property : String) :
    (s.tagEntries property).Pairwise fun a b => compare a.1 b.1 = .lt := by
  unfold tagEntries
  refine List.pairwise_map.mpr ?_
  have hordered := (ExtTreeMap.ordered_keys_toList (t := s.tags)).sublist
    (List.filter_sublist (p := fun entry => decide (entry.1.property = property)))
  refine hordered.imp_of_mem fun {a b} ha hb hlt => ?_
  have ha : a.1.property = property := by simpa using (List.mem_filter.mp ha).2
  have hb : b.1.property = property := by simpa using (List.mem_filter.mp hb).2
  have hlt : (compare a.1.property b.1.property).then (compare a.1.value b.1.value) = .lt := hlt
  rw [ha, hb, ReflOrd.compare_self] at hlt
  exact hlt

theorem Sound.withProperty_eq (h : s.Sound) (property : String) :
    s.withProperty property = s.plain.setWhere (PlainStore.holds property) := by
  refine ExtTreeSet.ext_mem fun id => ?_
  rw [h.mem_setWhere, withProperty, ExtTreeSet.mem_ofList, List.contains_iff_mem]
  simp only [List.mem_flatMap]
  constructor
  · rintro ⟨⟨value, list⟩, hentry, hid⟩
    have hentry := mem_tagEntries.mp hentry
    have hmem : id ∈ (s.tags.getD ⟨property, value⟩ .empty).ids := by
      rw [ExtTreeMap.getD_eq_getD_getElem?, hentry]
      exact hid
    obtain ⟨r, hr, htag⟩ := (h.tags.mem _ id).mp hmem
    have hvalue := Record.mem_tags.mp htag
    refine ⟨r, hr, ?_⟩
    have hne := List.ne_nil_of_mem hvalue
    simpa [PlainStore.holds] using hne
  · rintro ⟨r, hr, hholds⟩
    have hne : r.values property ≠ [] := by simpa [PlainStore.holds] using hholds
    obtain ⟨value, hvalue⟩ := List.exists_mem_of_ne_nil _ hne
    have hmem : id ∈ s.plain.idsWhere (value ∈ ·.values property) :=
      h.mem_idsWhere.mpr ⟨r, hr, by simpa using hvalue⟩
    have hentry := h.tag_entry property value
    rw [if_neg (List.ne_nil_of_mem hmem)] at hentry
    exact ⟨(value, _), mem_tagEntries.mpr hentry, hmem⟩

/-- A pass finds records with a value exactly when some record has the value. -/
private theorem Sound.idsWhere_ne_nil (h : s.Sound) {property : String} {value : Value} :
    s.plain.idsWhere (value ∈ ·.values property) ≠ [] ↔
      value ∈ s.toList.flatMap (·.values property) := by
  rw [List.mem_flatMap]
  constructor
  · intro hne
    obtain ⟨id, hid⟩ := List.exists_mem_of_ne_nil _ hne
    obtain ⟨r, hr, rfl⟩ := List.mem_map.mp hid
    obtain ⟨hr, hvalue⟩ := List.mem_filter.mp hr
    exact ⟨r, hr, by simpa using hvalue⟩
  · rintro ⟨r, hr, hvalue⟩
    have hmem : r.id ∈ s.plain.idsWhere (value ∈ ·.values property) :=
      h.mem_idsWhere.mpr ⟨r, h.mem_toList.mp hr, by simpa using hvalue⟩
    exact List.ne_nil_of_mem hmem

theorem Sound.valueCounts_eq (h : s.Sound) (property : String) :
    s.valueCounts property = s.plain.valueCounts property := by
  have hasymm : ∀ a b : Value × Nat, compare a.1 b.1 = .lt → ¬compare b.1 a.1 = .lt :=
    fun _ _ => OrientedCmp.not_lt_of_lt
  refine OrderedMap.eq_of_mem_iff hasymm ?_ ?_ ?_
  · exact List.pairwise_map.mpr (tagEntries_ordered property)
  · have hordered (values : ExtTreeSet Value) :
        values.toList.Pairwise fun a b => compare a b = .lt := ExtTreeSet.ordered_toList
    exact List.pairwise_map.mpr (hordered _)
  · rintro ⟨value, count⟩
    rw [valueCounts, PlainStore.valueCounts, List.mem_map, List.mem_map]
    constructor
    · rintro ⟨⟨v, list⟩, hentry, heq⟩
      obtain ⟨rfl, rfl⟩ : v = value ∧ list.ids.length = count := by simpa using heq
      have hentry := mem_tagEntries.mp hentry
      rw [h.tag_entry] at hentry
      split at hentry
      · simp at hentry
      · rename_i hne
        obtain rfl : _ = list := Option.some.inj hentry
        refine ⟨v, ExtTreeSet.mem_toList.mpr ?_, rfl⟩
        rw [ExtTreeSet.mem_ofList, List.contains_iff_mem]
        exact h.idsWhere_ne_nil.mp hne
    · rintro ⟨v, hv, heq⟩
      obtain ⟨rfl, rfl⟩ : v = value ∧ _ = count := by simpa using heq
      rw [ExtTreeSet.mem_toList, ExtTreeSet.mem_ofList, List.contains_iff_mem] at hv
      have hentry := h.tag_entry property v
      rw [if_neg (h.idsWhere_ne_nil.mpr hv)] at hentry
      exact ⟨(v, _), mem_tagEntries.mpr hentry, rfl⟩

/-- Records without the property do not count. -/
theorem Sound.maxValueCount_eq (h : s.Sound) (property : String) :
    s.maxValueCount property = s.plain.maxValueCount property := by
  rw [maxValueCount, h.withProperty_eq, h.recordsOf_setWhere, List.foldl_filter,
    PlainStore.maxValueCount]
  congr 1
  funext most r
  split
  · rfl
  · rename_i hnot
    have hnil : r.values property = [] := by simpa [PlainStore.holds] using hnot
    simp [hnil]

end Store

end MediaLibrary
