/-
Records whose property is renamed.

A property that gets another name takes its values along.  Nothing else of a record changes, and
the way back is the same again, so a record that was renamed there and back is the one that it
was.

The texts of a record are joined in the order of the names of its properties, so the text in
which it is searched may be another one afterwards.  But a term does not go beyond a blank, and
so the terms are the same.  Only a search for a text as it stands can tell the difference.
-/
import MediaLibrary.Proofs.Grouping.Groups
import MediaLibrary.Proofs.Property.Catalog
import MediaLibrary.Proofs.Query.Search

namespace MediaLibrary

open Std

/-- The name by which a property goes after one is renamed. -/
def nameAfter (old new name : String) : String := if name = old then new else name

theorem nameAfter_nameAfter {old new name : String} (h : name ≠ new) :
    nameAfter new old (nameAfter old new name) = name := by
  unfold nameAfter
  by_cases hold : name = old
  · rw [if_pos hold, if_pos rfl, hold]
  · rw [if_neg hold, if_neg h]

namespace Record

variable {old new : String} {r r' : Record}

/-- A record as it is after a property is renamed. -/
structure Renamed (old new : String) (r r' : Record) : Prop where
  /-- The new name has the values that the old one had. -/
  moved : r'.properties[new]? = r.properties[old]?
  /-- The old name has no values any more. -/
  gone : r'.properties[old]? = none
  /-- The new name had no values before. -/
  free : r.properties[new]? = none
  others : ∀ name, name ≠ old → name ≠ new → r'.properties[name]? = r.properties[name]?
  /-- Nothing but the properties changes. -/
  rest : r' = { r with properties := r'.properties }

/-! ### Renaming values -/

theorem getElem?_of_values_ne_nil {property : String} (h : r.values property ≠ []) :
    r.properties[property]? = some (r.values property) := by
  unfold values at h ⊢
  rw [ExtTreeMap.getD_eq_getD_getElem?] at h ⊢
  cases hvalues : r.properties[property]? with
  | none => simp [hvalues] at h
  | some values => rfl

theorem renamed_renameIn (hne : old ≠ new) (hheld : r.values old ≠ [])
    (hfree : r.properties[new]? = none) : Renamed old new r (Store.renameIn old new r) := by
  have hget : ∀ name, (Store.renameIn old new r).properties[name]? =
      if new = name then some (r.values old)
      else if old = name then none else r.properties[name]? := by
    intro name
    rw [Store.renameIn, getElem?_setValues, getElem?_setValues, if_neg hheld, if_pos rfl]
  refine ⟨?_, ?_, hfree, fun name hold hnew => ?_, rfl⟩
  · rw [hget, if_pos rfl, getElem?_of_values_ne_nil hheld]
  · rw [hget, if_neg (Ne.symm hne), if_pos rfl]
  · rw [hget, if_neg (Ne.symm hnew), if_neg (Ne.symm hold)]

/-- A record without the property does not change. -/
theorem renamed_self (hold : r.properties[old]? = none) (hnew : r.properties[new]? = none) :
    Renamed old new r r :=
  ⟨hnew.trans hold.symm, hold, hnew, fun _ _ _ => rfl, rfl⟩

namespace Renamed

/-! ### There and back -/

/-- The way back is the same again. -/
theorem symm (h : Renamed old new r r') : Renamed new old r' r where
  moved := h.moved.symm
  gone := h.free
  free := h.gone
  others name hnew hold := (h.others name hold hnew).symm
  rest := by rw [h.rest]

/-- There is one way only. -/
theorem unique {r'' : Record} (h : Renamed old new r r') (h' : Renamed old new r r'') :
    r' = r'' := by
  have hproperties : r'.properties = r''.properties := by
    refine ExtTreeMap.ext_getElem? fun name => ?_
    by_cases hnew : name = new
    · rw [hnew, h.moved, h'.moved]
    · by_cases hold : name = old
      · rw [hold, h.gone, h'.gone]
      · rw [h.others name hold hnew, h'.others name hold hnew]
  rw [h.rest, h'.rest, hproperties]

/-! ### What stays -/

theorem id_eq (h : Renamed old new r r') : r'.id = r.id := by rw [h.rest]

theorem flags_eq (h : Renamed old new r r') : r'.flags = r.flags := by rw [h.rest]

theorem length_eq (h : Renamed old new r r') : r'.length = r.length := by
  rw [h.rest]
  rfl

/-- No field shows the values of a property. -/
theorem valueOf_eq (h : Renamed old new r r') (f : Field) : f.valueOf r' = f.valueOf r := by
  rw [h.rest]
  cases f <;> rfl

theorem values_nameAfter (h : Renamed old new r r') {name : String} (hname : name ≠ new) :
    r'.values (nameAfter old new name) = r.values name := by
  unfold nameAfter values
  rw [ExtTreeMap.getD_eq_getD_getElem?, ExtTreeMap.getD_eq_getD_getElem?]
  split
  · rename_i heq
    rw [heq, h.moved]
  · rename_i hne
    rw [h.others name hne hname]

/-! ### What a search finds -/

private theorem propertyTexts_subset (h : Renamed old new r r') {text : String}
    (htext : text ∈ r.propertyTexts) : text ∈ r'.propertyTexts := by
  obtain ⟨⟨name, values⟩, hmem, hvalue⟩ := List.mem_flatMap.mp htext
  rw [ExtTreeMap.mem_toList_iff_getElem?_eq_some] at hmem
  have hnew : name ≠ new := by
    rintro rfl
    cases h.free.symm.trans hmem
  have hmoved : r'.properties[nameAfter old new name]? = some values := by
    unfold nameAfter
    split
    · rename_i heq
      rw [h.moved, ← heq, hmem]
    · rename_i hne
      rw [h.others name hne hnew, hmem]
  refine List.mem_flatMap.mpr ⟨(nameAfter old new name, values), ?_, hvalue⟩
  exact ExtTreeMap.mem_toList_iff_getElem?_eq_some.mpr hmoved

/-- **The terms do not depend on the names of properties.** -/
theorem mem_terms (h : Renamed old new r r') {term : String} :
    term ∈ r'.terms ↔ term ∈ r.terms := by
  have htexts : ∀ text, text ∈ r'.propertyTexts ↔ text ∈ r.propertyTexts := fun _ =>
    ⟨h.symm.propertyTexts_subset, h.propertyTexts_subset⟩
  have hparts : ∀ part, part ∈ r'.searchParts ↔ part ∈ r.searchParts := by
    have hpath : r'.path = r.path := by rw [h.rest]
    have htitle : r'.title = r.title := by rw [h.rest]
    simp [searchParts, fileTitle, hpath, htitle, htexts]
  rw [terms, terms, searchText, searchText, Text.mem_terms_intercalate, Text.mem_terms_intercalate]
  simp only [hparts]

theorem fromSources_iff (h : Renamed old new r r') (sources : List SourcePath) :
    FromSources sources r' ↔ FromSources sources r := by
  rw [FromSources, FromSources, h.flags_eq]

/-- Only a search for a text as it stands depends on the names of properties. -/
theorem searchedFor_iff (h : Renamed old new r r') {search : Option Search}
    (hsearch : ∀ s, search = some s → s.condition ≠ .exact) :
    SearchedFor search r' ↔ SearchedFor search r := by
  have hfinds : ∀ s ∈ search, (s.Finds r' ↔ s.Finds r) := by
    intro s hs
    have hcondition := hsearch s hs
    unfold Search.Finds
    split
    · rw [h.id_eq]
    · simp only [HasTermsOf, h.mem_terms]
    · simp only [h.mem_terms]
    · contradiction
  exact forall₂_congr fun s hs => forall_congr' fun _ => hfinds s hs

end Renamed

end Record

/-! ### What groups notice -/

/-- What records are grouped by after a property is renamed. -/
def Basis.renamed (old new : String) : Basis → Basis
  | field f => field f
  | single property default => single (nameAfter old new property) default
  | several property => several (nameAfter old new property)

/-- Groups by the new name do not notice that it is one. -/
theorem Record.Renamed.unnoticed {old new : String} {r r' : Record} (h : Renamed old new r r')
    {basis : Basis} (hnew : ¬basis.Reads new) (path : List Value) :
    Unnoticed basis (basis.renamed old new) path r r' := by
  have hpush : ∀ b : Bucket, b.push r' = b.push r := by
    intro b
    rw [Bucket.push, Bucket.push, h.id_eq, h.length_eq]
  cases basis with
  | field f => exact ⟨hpush, by rw [Basis.renamed, Basis.keys, Basis.keys, h.valueOf_eq], rfl⟩
  | single property default =>
      refine ⟨hpush, ?_, rfl⟩
      rw [Basis.renamed, Basis.keys, Basis.keys, h.values_nameAfter hnew]
  | several property =>
      refine ⟨hpush, ?_, ?_⟩
      · rw [Basis.renamed, Basis.keys_several, Basis.keys_several, h.values_nameAfter hnew]
      · rw [Basis.renamed, Basis.holdsPath, Basis.holdsPath, h.values_nameAfter hnew]

end MediaLibrary
