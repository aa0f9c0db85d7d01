/-
What a catalog admits, and how it changes.

A record is admitted by a catalog when each property that it names is defined, has a value,
and has only values that the definition admits.  Checking a record against the catalog
makes an admitted record of it.

The four operations on definitions are alike in that they answer with a changed catalog and
with what the change means for the records.  `Changes` lists what they may answer; whoever
takes over a change needs to know nothing else about the operation that made it.
-/
import MediaLibrary.Library.Records
import MediaLibrary.Proofs.OrderedMap
import MediaLibrary.Proofs.Property.Definition

namespace MediaLibrary

open Std

namespace Record

/-- Values are set for one property, and without values it is absent. -/
theorem getElem?_setValues (r : Record) (property name : String) (values : List Value) :
    (r.setValues property values).properties[name]? =
      if property = name then (if values = [] then none else some values)
      else r.properties[name]? := by
  unfold setValues
  cases values with
  | nil => simp [OrderedMap.getElem?_erase]
  | cons value rest => simp [OrderedMap.getElem?_insert]

theorem values_setValues_self (r : Record) (property : String) (values : List Value) :
    (r.setValues property values).values property = values := by
  unfold Record.values
  rw [ExtTreeMap.getD_eq_getD_getElem?, getElem?_setValues, if_pos rfl]
  split
  · rename_i hnone
    exact hnone.symm
  · rfl

theorem values_setValues_of_ne (r : Record) {property name : String} (hne : property ≠ name)
    (values : List Value) : (r.setValues property values).values name = r.values name := by
  unfold Record.values
  rw [ExtTreeMap.getD_eq_getD_getElem?, ExtTreeMap.getD_eq_getD_getElem?, getElem?_setValues,
    if_neg hne]

/-- The record with the values of several properties, set one after the other. -/
def setAll (r : Record) (entries : List (String × List Value)) : Record :=
  entries.foldl (fun r (name, values) => r.setValues name values) r

/-- Nothing but the properties changes. -/
theorem setAll_rest (entries : List (String × List Value)) :
    ∀ r : Record, r.setAll entries = { r with properties := (r.setAll entries).properties } := by
  induction entries with
  | nil => exact fun r => rfl
  | cons entry rest ih => exact fun r => ih (r.setValues entry.1 entry.2)

end Record

namespace Catalog

variable {c : Catalog}

/-- A name that is free is not that of a definition. -/
theorem ne_of_get? {name new : String} {d : Definition} (hname : c.get? name = some d)
    (hnew : c.get? new = none) : name ≠ new := by
  rintro rfl
  cases hname.symm.trans hnew

theorem isSome_get? (c : Catalog) (name : String) :
    (c.get? name).isSome = c.definitions.contains name :=
  ExtTreeMap.contains_eq_isSome_getElem?.symm

/-! ### Values of one property -/

/-- The property is defined and may hold the values as they stand. -/
def AdmitsValues (c : Catalog) (name : String) (values : List Value) : Prop :=
  ∃ d, c.get? name = some d ∧ d.Admits values

theorem validate_eq (c : Catalog) (name : String) (raw : List Value) :
    c.validate name raw = match c.get? name with
      | some d => d.validate raw
      | none => .error (.unknown name) := by
  unfold validate require
  cases c.get? name <;> rfl

theorem admitsValues_of_validate {name : String} {raw values : List Value}
    (h : c.validate name raw = .ok values) : c.AdmitsValues name values := by
  rw [validate_eq] at h
  split at h
  · rename_i d hd
    exact ⟨d, hd, Definition.admits_of_validate h⟩
  · cases h

theorem validate_of_admitsValues {name : String} {values : List Value}
    (h : c.AdmitsValues name values) : c.validate name values = .ok values := by
  obtain ⟨d, hd, hadmits⟩ := h
  rw [validate_eq, hd]
  exact Definition.validate_of_admits hadmits

/-! ### Records -/

/-- Every property of the record has a value, and may hold the values that it has. -/
def Admits (c : Catalog) (r : Record) : Prop :=
  ∀ (name : String) (values : List Value), r.properties[name]? = some values →
    values ≠ [] ∧ c.AdmitsValues name values

/-- A property without values is absent. -/
theorem Admits.getElem?_eq_none {r : Record} (h : c.Admits r) {name : String}
    (hname : r.values name = []) : r.properties[name]? = none := by
  unfold Record.values at hname
  rw [ExtTreeMap.getD_eq_getD_getElem?] at hname
  cases hvalues : r.properties[name]? with
  | none => rfl
  | some values =>
      rw [hvalues] at hname
      exact absurd hname (h name values hvalues).1

theorem Admits.admitsValues {r : Record} (h : c.Admits r) {name : String}
    (hname : r.values name ≠ []) : c.AdmitsValues name (r.values name) := by
  unfold Record.values at hname ⊢
  rw [ExtTreeMap.getD_eq_getD_getElem?] at hname ⊢
  cases hvalues : r.properties[name]? with
  | none =>
      rw [hvalues] at hname
      exact absurd rfl hname
  | some values => exact (h name values hvalues).2

/-- Only the properties of a record matter. -/
theorem Admits.congr {r r' : Record} (h : c.Admits r) (heq : r'.properties = r.properties) :
    c.Admits r' := by
  unfold Admits
  rw [heq]
  exact h

/-- Values of another property stay, and the new ones come to the rest. -/
theorem Admits.setValues {r : Record} (h : c.Admits r) {property : String}
    {values : List Value} (hvalues : values ≠ [] → c.AdmitsValues property values) :
    c.Admits (r.setValues property values) := by
  intro name held hheld
  rw [Record.getElem?_setValues] at hheld
  split at hheld
  · rename_i heq
    subst heq
    split at hheld
    · cases hheld
    · rename_i hne
      cases hheld
      exact ⟨hne, hvalues hne⟩
  · exact h name held hheld

theorem admits_setAll (entries : List (String × List Value))
    (hentries : ∀ entry ∈ entries, c.AdmitsValues entry.1 entry.2) :
    ∀ {r : Record}, c.Admits r → c.Admits (r.setAll entries) := by
  induction entries with
  | nil => exact id
  | cons entry rest ih =>
      intro r h
      obtain ⟨hfirst, hrest⟩ := List.forall_mem_cons.mp hentries
      exact ih hrest (h.setValues fun _ => hfirst)

/-- **A checked record is admitted.**  Its identifier and its path are as before. -/
theorem admits_of_validateRecord {r r' : Record} (h : c.validateRecord r = .ok r') :
    c.Admits r' ∧ r'.id = r.id ∧ r'.path = r.path := by
  obtain ⟨checked, hchecked, h⟩ := Checked.exists_of_bind_ok h
  obtain rfl : Record.setAll { r with properties := ∅ } checked = r' := Except.ok.inj h
  have hrest := Record.setAll_rest checked { r with properties := ∅ }
  have hid := congrArg Record.id hrest
  have hpath := congrArg Record.path hrest
  refine ⟨admits_setAll checked ?_ (fun name values hvalues => by simp at hvalues), hid, hpath⟩
  intro entry hentry
  obtain ⟨⟨name, raw⟩, _, hraw⟩ := Checked.exists_of_mem_mapM _ hchecked hentry
  obtain ⟨values, hvalues, hraw⟩ := Checked.exists_of_bind_ok hraw
  cases hraw
  exact admitsValues_of_validate hvalues

/-! ### Changes -/

/-- What an operation on definitions may answer. -/
inductive Changes (c : Catalog) : Catalog → CatalogChange → Prop
  | defined (d : Definition) (hname : ProperName d.name) (hnew : c.get? d.name = none) :
      Changes c (changed (c.definitions.insert d.name d)) (.defined d.name)
  | renamed (d : Definition) (old new : String) (hname : ProperName new)
      (hold : c.get? old = some d) (hnew : c.get? new = none) :
      Changes c (changed ((c.definitions.erase old).insert new { d with name := new }))
        (.renamed old new)
  | removed (name : String) : Changes c (changed (c.definitions.erase name)) (.removed name)
  | multiplicity (d : Definition) (name : String) (multiple : Bool)
      (hname : c.get? name = some d) :
      Changes c (changed (c.definitions.insert name { d with multiple }))
        (.multiplicity name multiple)

/-- What is not contained is not found. -/
private theorem get?_eq_none_of_contains {name : String}
    (h : ¬c.definitions.contains name = true) : c.get? name = none := by
  rw [← isSome_get?] at h
  simpa using h

private theorem get?_eq_some_of_require {name : String} {d : Definition}
    (h : c.require name = .ok d) : c.get? name = some d := by
  unfold require at h
  split at h
  · rename_i hname
    cases h
    exact hname
  · cases h

/-- What is defined has been made under a name that is free. -/
theorem exists_new_of_define {name : String} {kind : Kind} {multiple : Bool}
    {enumeration : Option (List Value)} {default : Option Value} {c' : Catalog}
    {change : CatalogChange}
    (h : c.define name kind multiple enumeration default = .ok (c', change)) :
    ∃ d, Definition.new name kind multiple enumeration default = .ok d ∧ c.get? d.name = none ∧
      c' = changed (c.definitions.insert d.name d) ∧ change = .defined d.name := by
  unfold define at h
  split at h
  · cases h
  · rename_i hnew
    obtain ⟨d, hd, h⟩ := Checked.exists_of_bind_ok h
    cases h
    rw [← Definition.name_of_new hd] at hnew
    exact ⟨d, hd, get?_eq_none_of_contains hnew, rfl, rfl⟩

theorem changes_of_define {name : String} {kind : Kind} {multiple : Bool}
    {enumeration : Option (List Value)} {default : Option Value} {c' : Catalog}
    {change : CatalogChange}
    (h : c.define name kind multiple enumeration default = .ok (c', change)) :
    c.Changes c' change ∧ ∃ name, change = .defined name := by
  obtain ⟨d, hd, hfree, rfl, rfl⟩ := exists_new_of_define h
  exact ⟨.defined d (Definition.properName_of_new hd) hfree, d.name, rfl⟩

theorem changes_of_rename {old new : String} {c' : Catalog} {change : CatalogChange}
    (h : c.rename old new = .ok (c', change)) :
    c.Changes c' change ∧ change = .renamed old (Text.trim new) := by
  unfold rename at h
  obtain ⟨d, hd, h⟩ := Checked.exists_of_bind_ok h
  dsimp only at h
  split at h
  · cases h
  · rename_i hname
    have hname : ProperName (Text.trim new) := .of_trim (by simpa using hname)
    split at h
    · cases h
    · rename_i hnew
      cases h
      exact ⟨.renamed d old (Text.trim new) hname (get?_eq_some_of_require hd)
        (get?_eq_none_of_contains hnew), rfl⟩

/-- A property may take any proper name that is free. -/
theorem rename_eq {d : Definition} {old new : String} (hold : c.get? old = some d)
    (hname : ProperName new) (hnew : c.get? new = none) :
    c.rename old new =
      .ok (changed ((c.definitions.erase old).insert new { d with name := new }),
        .renamed old new) := by
  have hrequire : c.require old = .ok d := by rw [require, hold]
  have hfree : c.definitions.contains new = false := by
    rw [← isSome_get?, hnew]
    rfl
  rw [rename, hname.trimmed, hrequire]
  show (if new.isEmpty then _ else _) = _
  rw [hname.nonempty, hfree]
  rfl

theorem changes_of_remove {name : String} {c' : Catalog} {change : CatalogChange}
    (h : c.remove name = .ok (c', change)) :
    c.Changes c' change ∧ change = .removed name := by
  unfold remove at h
  obtain ⟨d, _, h⟩ := Checked.exists_of_bind_ok h
  cases h
  exact ⟨.removed name, rfl⟩

theorem changes_of_setMultiplicity {name : String} {multiple : Bool} {c' : Catalog}
    {change : CatalogChange} (h : c.setMultiplicity name multiple = .ok (c', change)) :
    c.Changes c' change ∧ change = .multiplicity name multiple := by
  unfold setMultiplicity at h
  obtain ⟨d, hd, h⟩ := Checked.exists_of_bind_ok h
  cases h
  exact ⟨.multiplicity d name multiple (get?_eq_some_of_require hd), rfl⟩

end Catalog

end MediaLibrary
