/-
Records that are given values of a property.

The records are listed by their identifiers, in any order and as often as one likes; the store
makes a set of them first.  So what is done depends on which identifiers are listed and on
nothing else.  Each of these records is put back with the new values, and giving it the same
values once more changes nothing.
-/
import MediaLibrary.Proofs.Property.Catalog
import MediaLibrary.Proofs.Store.Refinement

namespace MediaLibrary

open Std

namespace Record

variable {property : String} {values : List Value} {r r' : Record}

/-- A record as it is after a property is given some values. -/
structure Tagged (property : String) (values : List Value) (r r' : Record) : Prop where
  /-- A property without values has no entry. -/
  given : r'.properties[property]? = if values = [] then none else some values
  others : ∀ name, name ≠ property → r'.properties[name]? = r.properties[name]?
  /-- Nothing but the properties changes. -/
  rest : r' = { r with properties := r'.properties }

theorem tagged_setValues (property : String) (values : List Value) (r : Record) :
    Tagged property values r (r.setValues property values) where
  given := by rw [getElem?_setValues, if_pos rfl]
  others name hne := by rw [getElem?_setValues, if_neg (Ne.symm hne)]
  rest := rfl

/-- There is one way only. -/
theorem Tagged.unique {r'' : Record} (h : Tagged property values r r')
    (h' : Tagged property values r r'') : r' = r'' := by
  have hproperties : r'.properties = r''.properties := by
    refine ExtTreeMap.ext_getElem? fun name => ?_
    by_cases hname : name = property
    · rw [hname, h.given, h'.given]
    · rw [h.others name hname, h'.others name hname]
  rw [h.rest, h'.rest, hproperties]

/-- Values that are given twice are given once. -/
theorem setValues_setValues (property : String) (values : List Value) (r : Record) :
    (r.setValues property values).setValues property values = r.setValues property values := by
  have honce := tagged_setValues property values r
  have htwice := tagged_setValues property values (r.setValues property values)
  have hboth : Tagged property values r ((r.setValues property values).setValues property values) :=
    ⟨htwice.given, fun name hne => (htwice.others name hne).trans (honce.others name hne), rfl⟩
  exact hboth.unique honce

end Record

/-- An edit of the same records that changes nothing when it is repeated. -/
theorem PlainStore.edit_edit (p : PlainStore) {which : Record → Bool} {change : Record → Record}
    (hwhich : ∀ r, which (change r) = which r) (hchange : ∀ r, change (change r) = change r) :
    (p.edit which change).edit which change = p.edit which change := by
  have hrecords : ((p.edit which change).edit which change).records =
      (p.edit which change).records := by
    refine ExtTreeMap.ext_getElem? fun id => ?_
    rw [getElem?_edit, getElem?_edit]
    cases p.records[id]? with
    | none => rfl
    | some r =>
        simp only [Option.map_some]
        by_cases hr : which r = true
        · rw [if_pos hr, hwhich, if_pos hr, hchange]
        · rw [if_neg hr, if_neg hr]
  show PlainStore.mk ((p.edit which change).edit which change).records _ _ = _
  rw [hrecords]

namespace Store

variable {s s' : Store} {ids ids' : List RecordId} {property : String} {values : List Value}
  {count : Nat}

/-! ### Listed identifiers -/

/-- Identifiers that are listed more than once count once. -/
theorem size_ofList (ids : List RecordId) :
    (ExtTreeSet.ofList ids compare).size = ids.eraseDups.length := by
  have hdistinct : (ExtTreeSet.ofList ids compare).toList.Nodup :=
    ExtTreeSet.ordered_toList.imp fun hlt heq => by
      rw [heq, ReflOrd.compare_self] at hlt
      cases hlt
  have hsame : ∀ id, id ∈ (ExtTreeSet.ofList ids compare).toList ↔ id ∈ ids.eraseDups := by
    intro id
    rw [ExtTreeSet.mem_toList, ExtTreeSet.mem_ofList, List.contains_iff_mem, List.mem_eraseDups]
  rw [← ExtTreeSet.length_toList]
  exact ((List.perm_ext_iff_of_nodup hdistinct (nodup_eraseDups ids)).mpr hsame).length_eq

/-- Only which identifiers are listed matters. -/
theorem setValues_congr (h : ∀ id, id ∈ ids' ↔ id ∈ ids) :
    s.setValues ids' property values = s.setValues ids property values := by
  have hset : ExtTreeSet.ofList ids' compare = ExtTreeSet.ofList ids compare :=
    ExtTreeSet.ext_mem fun id => by
      rw [ExtTreeSet.mem_ofList, ExtTreeSet.mem_ofList, List.contains_iff_mem,
        List.contains_iff_mem, h]
  rw [setValues, setValues, hset]

/-! ### What is set -/

/-- **What setting values leaves:** all listed records were there, each of them is counted once,
and those that are listed are edited. -/
theorem Sound.setValues_leaves (h : s.Sound)
    (hset : s.setValues ids property values = .ok (count, s')) :
    (∀ id ∈ ids, s.contains id = true) ∧ count = ids.eraseDups.length ∧ s'.Sound ∧
      s'.plain = s.plain.edit (ids.contains ·.id) (·.setValues property values) := by
  obtain ⟨hsame, hsound⟩ := h.setValues_inStep ids property values
  rw [hset] at hsame
  have hsame : .ok (count, s'.plain) = s.plain.setValues ids property values := hsame
  unfold PlainStore.setValues at hsame
  dsimp only at hsame
  split at hsame
  · cases hsame
  · rename_i hnone
    obtain ⟨hcount, hplain⟩ := Prod.mk.inj (Except.ok.inj hsame)
    refine ⟨fun id hid => ?_, hcount.trans (size_ofList ids), hsound count s' hset, ?_⟩
    · have hlisted : id ∈ (ExtTreeSet.ofList ids compare).toList := by
        rw [ExtTreeSet.mem_toList, ExtTreeSet.mem_ofList, List.contains_iff_mem]
        exact hid
      show s.plain.records.contains id = true
      simpa using List.find?_eq_none.mp hnone id hlisted
    · rw [hplain]
      simp only [ExtTreeSet.contains_ofList]

/-- Values can be set in records that are there. -/
theorem Sound.exists_setValues (h : s.Sound) (hall : ∀ id ∈ ids, s.contains id = true)
    (property : String) (values : List Value) :
    ∃ count s', s.setValues ids property values = .ok (count, s') := by
  have hsame := (h.setValues_inStep ids property values).same
  have hnone :
      (ExtTreeSet.ofList ids compare).toList.find? (!s.plain.records.contains ·) = none := by
    refine List.find?_eq_none.mpr fun id hid => ?_
    rw [ExtTreeSet.mem_toList, ExtTreeSet.mem_ofList, List.contains_iff_mem] at hid
    have hid : s.plain.records.contains id = true := hall id hid
    rw [hid]
    decide
  rw [PlainStore.setValues, hnone] at hsame
  cases hset : s.setValues ids property values with
  | ok answer => exact ⟨answer.1, answer.2, rfl⟩
  | error e =>
      rw [hset] at hsame
      cases hsame

/-- **Values that are set twice are set once.** -/
theorem Sound.setValues_again (h : s.Sound)
    (hset : s.setValues ids property values = .ok (count, s')) :
    s'.setValues ids property values = .ok (count, s') := by
  obtain ⟨hall, hcount, hsound, hplain⟩ := h.setValues_leaves hset
  have hrecords : s'.records = (s.plain.edit (ids.contains ·.id) _).records :=
    congrArg PlainStore.records hplain
  have hall' : ∀ id ∈ ids, s'.contains id = true := by
    intro id hid
    have hid : s.records.contains id = true := hall id hid
    rw [contains, hrecords, ExtTreeMap.contains_eq_isSome_getElem?, PlainStore.getElem?_edit,
      Option.isSome_map, ← ExtTreeMap.contains_eq_isSome_getElem?]
    exact hid
  obtain ⟨count', s'', hagain⟩ := hsound.exists_setValues hall' property values
  obtain ⟨_, hcount', hsound', hplain'⟩ := hsound.setValues_leaves hagain
  have hedits : s''.plain = s'.plain := by
    rw [hplain', hplain]
    exact s.plain.edit_edit (fun _ => rfl) (Record.setValues_setValues property values)
  rw [hagain, hcount', ← hcount, hsound'.eq_of_plain_eq hsound hedits]

end Store

end MediaLibrary
