/-
Records whose values were checked.

The properties of a record are checked one after the other, and the record is put together again
from what passed.  A record has one entry for a property, so no entry takes the place of another
one.  `Validated` says of each property what the checked record has for it.
-/
import Mathlib.Data.List.Forall2
import MediaLibrary.Proofs.Property.Catalog

namespace MediaLibrary

open Std

/-! ### Lists of the same length -/

/-- Going through a list and refusing nothing, every item has its result. -/
theorem Checked.forall₂_of_mapM {α β ε : Type} {f : α → Except ε β} (items : List α) :
    ∀ {results : List β}, items.mapM f = .ok results →
      List.Forall₂ (fun a b => f a = .ok b) items results := by
  induction items with
  | nil =>
      intro results h
      cases h
      exact .nil
  | cons a rest ih =>
      intro results h
      obtain ⟨b, others, hb, hothers, rfl⟩ := mapM_cons_ok h
      exact .cons hb (ih hothers)

theorem map_eq_of_forall₂ {α β γ : Type} {R : α → β → Prop} {f : α → γ} {g : β → γ}
    {xs : List α} {ys : List β} (h : List.Forall₂ R xs ys) (hsame : ∀ a b, R a b → f a = g b) :
    xs.map f = ys.map g := by
  induction h with
  | nil => rfl
  | cons hab _ ih => rw [List.map_cons, List.map_cons, hsame _ _ hab, ih]

/-- Beside each item of a list stands what stands beside the related one. -/
theorem exists_of_mem_zip {α β γ : Type} {R : α → β → Prop} {xs : List α} {ys : List β}
    (h : List.Forall₂ R xs ys) :
    ∀ {zs : List γ} {p : α × γ}, p ∈ xs.zip zs → ∃ b, R p.1 b ∧ (b, p.2) ∈ ys.zip zs := by
  induction h with
  | nil => intro zs p hp; simp at hp
  | cons hab _ ih =>
      intro zs p hp
      cases zs with
      | nil => simp at hp
      | cons c zs =>
          rw [List.zip_cons_cons, List.mem_cons] at hp
          rcases hp with rfl | hp
          · exact ⟨_, hab, List.mem_cons_self⟩
          · obtain ⟨b, hb, hmem⟩ := ih hp
            exact ⟨b, hb, List.mem_cons_of_mem _ hmem⟩

namespace Record

variable {c : Catalog} {r r' : Record}

/-- A record as it is when its values have been checked. -/
structure Validated (c : Catalog) (r r' : Record) : Prop where
  /-- A property has the values that passed the check, and no entry if there are none. -/
  held : ∀ (name : String) (raw : List Value), r.properties[name]? = some raw → ∃ values,
    c.validate name raw = .ok values ∧
      r'.properties[name]? = if values = [] then none else some values
  absent : ∀ name : String, r.properties[name]? = none → r'.properties[name]? = none
  /-- Nothing but the properties changes. -/
  rest : r' = { r with properties := r'.properties }

/-! ### Setting one property after the other -/

variable {name : String} {values : List Value}

theorem getElem?_setAll_of_forall_ne (entries : List (String × List Value)) :
    ∀ r : Record, (∀ entry ∈ entries, entry.1 ≠ name) →
      (r.setAll entries).properties[name]? = r.properties[name]? := by
  induction entries with
  | nil => exact fun r _ => rfl
  | cons entry rest ih =>
      intro r hne
      obtain ⟨hfirst, hrest⟩ := List.forall_mem_cons.mp hne
      show ((r.setValues entry.1 entry.2).setAll rest).properties[name]? = _
      rw [ih _ hrest, getElem?_setValues, if_neg hfirst]

theorem getElem?_setAll_of_mem (entries : List (String × List Value)) :
    ∀ r : Record, entries.Pairwise (·.1 ≠ ·.1) → (name, values) ∈ entries →
      (r.setAll entries).properties[name]? = if values = [] then none else some values := by
  induction entries with
  | nil => intro r _ hmem; cases hmem
  | cons entry rest ih =>
      intro r hne hmem
      obtain ⟨hfirst, hrest⟩ := List.pairwise_cons.mp hne
      show ((r.setValues entry.1 entry.2).setAll rest).properties[name]? = _
      rcases List.mem_cons.mp hmem with rfl | hmem
      · -- None of the others sets the property again.
        rw [getElem?_setAll_of_forall_ne rest _ fun other hother => (hfirst other hother).symm,
          getElem?_setValues, if_pos rfl]
      · exact ih _ hrest hmem

/-! ### Checking a record -/

/-- **What checking a record makes of it.** -/
theorem validated_of_validateRecord (h : c.validateRecord r = .ok r') : Validated c r r' := by
  obtain ⟨checked, hchecked, h⟩ := Checked.exists_of_bind_ok h
  obtain rfl : setAll { r with properties := ∅ } checked = r' := Except.ok.inj h
  have hentries : ∀ entry entry' : String × List Value,
      (do return (entry.1, ← c.validate entry.1 entry.2)) = Except.ok entry' →
        entry.1 = entry'.1 ∧ c.validate entry.1 entry.2 = .ok entry'.2 := by
    intro entry entry' hentry
    obtain ⟨values, hvalues, hentry⟩ := Checked.exists_of_bind_ok hentry
    cases hentry
    exact ⟨rfl, hvalues⟩
  have hnames : r.properties.toList.map Prod.fst = checked.map Prod.fst :=
    map_eq_of_forall₂ (Checked.forall₂_of_mapM _ hchecked) fun entry entry' hentry =>
      (hentries entry entry' hentry).1
  have hdistinct : checked.Pairwise (·.1 ≠ ·.1) := by
    refine List.pairwise_map.mp (hnames ▸ List.pairwise_map.mpr ?_)
    refine ExtTreeMap.ordered_keys_toList.imp fun hlt heq => ?_
    rw [heq, ReflOrd.compare_self] at hlt
    cases hlt
  -- What was checked is the entry of the record under the same name.
  have hsource : ∀ entry' ∈ checked, ∃ raw, r.properties[entry'.1]? = some raw ∧
      c.validate entry'.1 raw = .ok entry'.2 := by
    intro entry' hmem
    obtain ⟨entry, hentry, hresult⟩ := Checked.exists_of_mem_mapM _ hchecked hmem
    obtain ⟨hname, hvalues⟩ := hentries entry entry' hresult
    rw [← hname]
    exact ⟨entry.2, ExtTreeMap.mem_toList_iff_getElem?_eq_some.mp hentry, hvalues⟩
  refine ⟨fun name raw hraw => ?_, fun name hnone => ?_, setAll_rest checked _⟩
  · have hname : name ∈ checked.map Prod.fst := by
      rw [← hnames]
      exact List.mem_map.mpr
        ⟨(name, raw), ExtTreeMap.mem_toList_iff_getElem?_eq_some.mpr hraw, rfl⟩
    obtain ⟨⟨name, values⟩, hmem, rfl⟩ := List.mem_map.mp hname
    obtain ⟨raw', hraw', hvalues⟩ := hsource _ hmem
    cases hraw.symm.trans hraw'
    exact ⟨values, hvalues, getElem?_setAll_of_mem checked _ hdistinct hmem⟩
  · have hne : ∀ entry' ∈ checked, entry'.1 ≠ name := by
      rintro entry' hmem rfl
      obtain ⟨raw, hraw, _⟩ := hsource entry' hmem
      cases hnone.symm.trans hraw
    rw [getElem?_setAll_of_forall_ne checked _ hne]
    exact ExtTreeMap.getElem?_empty

end Record

end MediaLibrary
