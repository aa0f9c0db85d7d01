/-
Records follow the catalog.

Each change of a catalog asks something of the records.  A new property asks nothing, for
no record can have values of it.  A renamed one takes its values along, and one that is
removed loses them.  A property that is to be confined to a single value asks for the
greatest number of values that a record holds, which an index knows; in a sound store the
index knows the records.  So records that were admitted by the catalog before a change are
admitted by the changed one.
-/
import MediaLibrary.Library.Definitions
import MediaLibrary.Proofs.Property.Catalog
import MediaLibrary.Proofs.Record.Renamed
import MediaLibrary.Proofs.Store.Refinement

namespace MediaLibrary

open Std

namespace PlainStore

private theorem foldl_max_le_iff (measure : Record → Nat) (records : List Record) (bound : Nat) :
    ∀ most : Nat, records.foldl (fun most r => max most (measure r)) most ≤ bound ↔
      most ≤ bound ∧ ∀ r ∈ records, measure r ≤ bound := by
  induction records with
  | nil => intro most; simp
  | cons r rest ih =>
      intro most
      rw [List.foldl_cons, ih, Nat.max_le, List.forall_mem_cons, and_assoc]

theorem maxValueCount_le_iff (p : PlainStore) {property : String} {bound : Nat} :
    p.maxValueCount property ≤ bound ↔ ∀ r ∈ p.toList, (r.values property).length ≤ bound := by
  rw [maxValueCount, foldl_max_le_iff]
  simp

theorem length_values_le (p : PlainStore) (property : String) {r : Record} (hr : r ∈ p.toList) :
    (r.values property).length ≤ p.maxValueCount property :=
  p.maxValueCount_le_iff.mp (Nat.le_refl _) r hr

end PlainStore

namespace Catalog

variable {c : Catalog}

/-! ### Definitions of a changed catalog -/

theorem get?_insert (definitions : ExtTreeMap String Definition) (key name : String)
    (d : Definition) :
    (changed (definitions.insert key d)).get? name =
      if key = name then some d else definitions[name]? :=
  OrderedMap.getElem?_insert definitions key name d

theorem get?_erase (definitions : ExtTreeMap String Definition) (key name : String) :
    (changed (definitions.erase key)).get? name =
      if key = name then none else definitions[name]? :=
  OrderedMap.getElem?_erase definitions key name

/-- **What a change leaves of a definition:** the change is one of its name, removes it, or makes
it single- or multi-valued; any other change leaves it as it is. -/
theorem Changes.get?_cases {c' : Catalog} {change : CatalogChange} (h : c.Changes c' change)
    {name : String} {d : Definition} (hd : c.get? name = some d) :
    (∃ new, change = .renamed name new ∧ c'.get? new = some { d with name := new }) ∨
      change = .removed name ∨
      (∃ multiple, change = .multiplicity name multiple ∧
        c'.get? name = some { d with multiple }) ∨
      c'.get? name = some d := by
  have hnew : ∀ {other}, c.get? other = none → other ≠ name := fun hother =>
    (ne_of_get? hd hother).symm
  cases h with
  | defined d' _ hfree =>
      refine .inr (.inr (.inr ?_))
      rw [get?_insert, if_neg (hnew hfree)]
      exact hd
  | renamed d' old new _ hold hfree =>
      by_cases heq : old = name
      · subst heq
        cases hold.symm.trans hd
        refine .inl ⟨new, rfl, ?_⟩
        rw [get?_insert, if_pos rfl]
      · refine .inr (.inr (.inr ?_))
        rw [get?_insert, if_neg (hnew hfree), OrderedMap.getElem?_erase, if_neg heq]
        exact hd
  | removed removed =>
      by_cases heq : removed = name
      · exact .inr (.inl (by rw [heq]))
      · refine .inr (.inr (.inr ?_))
        rw [get?_erase, if_neg heq]
        exact hd
  | multiplicity d' changed multiple hchanged =>
      by_cases heq : changed = name
      · subst heq
        cases hchanged.symm.trans hd
        refine .inr (.inr (.inl ⟨multiple, rfl, ?_⟩))
        rw [get?_insert, if_pos rfl]
      · refine .inr (.inr (.inr ?_))
        rw [get?_insert, if_neg heq]
        exact hd

/-- Every definition is kept under a name that may be taken as it stands. -/
def ProperlyNamed (c : Catalog) : Prop :=
  ∀ (name : String) (d : Definition), c.get? name = some d → ProperName name

/-- Definitions are made and renamed under proper names. -/
theorem Changes.properlyNamed {c' : Catalog} {change : CatalogChange} (h : c.Changes c' change)
    (hnamed : c.ProperlyNamed) : c'.ProperlyNamed := by
  intro name d hd
  cases h with
  | defined d' hname hfree =>
      rw [get?_insert] at hd
      split at hd
      · rename_i heq
        exact heq ▸ hname
      · exact hnamed name d hd
  | renamed d' old new hname hold hfree =>
      rw [get?_insert, OrderedMap.getElem?_erase] at hd
      split at hd
      · rename_i heq
        exact heq ▸ hname
      · split at hd
        · cases hd
        · exact hnamed name d hd
  | removed removed =>
      rw [get?_erase] at hd
      split at hd
      · cases hd
      · exact hnamed name d hd
  | multiplicity d' changed multiple hchanged =>
      rw [get?_insert] at hd
      split at hd
      · rename_i heq
        exact heq ▸ hnamed changed d' hchanged
      · exact hnamed name d hd

/-- Records depend on the definitions of the properties that they have. -/
theorem Admits.of_get? {c' : Catalog} {r : Record} (h : c.Admits r)
    (hget : ∀ (name : String) (values : List Value), r.properties[name]? = some values →
      c'.get? name = c.get? name) : c'.Admits r := by
  intro name values hvalues
  obtain ⟨hne, d, hd, hadmits⟩ := h name values hvalues
  exact ⟨hne, d, (hget name values hvalues).trans hd, hadmits⟩

/-- A record has no values of a property that is not defined. -/
theorem Admits.name_ne {r : Record} (h : c.Admits r) {name new : String} {values : List Value}
    (hvalues : r.properties[name]? = some values) (hnew : c.get? new = none) : new ≠ name := by
  obtain ⟨_, d, hd, _⟩ := h name values hvalues
  exact (ne_of_get? hd hnew).symm

/-! ### One record -/

theorem Admits.define {r : Record} (h : c.Admits r) {d : Definition}
    (hnew : c.get? d.name = none) : (changed (c.definitions.insert d.name d)).Admits r := by
  refine h.of_get? fun name values hvalues => ?_
  rw [get?_insert, if_neg (h.name_ne hvalues hnew)]
  rfl

/-- A record that is admitted is renamed by an edit of the records that hold the property. -/
theorem Admits.renamed {r : Record} (h : c.Admits r) {old new : String} (hne : old ≠ new)
    (hnew : c.get? new = none) :
    Record.Renamed old new r (if PlainStore.holds old r then Store.renameIn old new r else r) := by
  have hfree : r.properties[new]? = none :=
    Option.eq_none_iff_forall_ne_some.mpr fun values hvalues => h.name_ne hvalues hnew rfl
  split
  · rename_i hheld
    exact Record.renamed_renameIn hne (by simpa [PlainStore.holds] using hheld) hfree
  · rename_i hnone
    exact Record.renamed_self (h.getElem?_eq_none (by simpa [PlainStore.holds] using hnone)) hfree

theorem Admits.rename {r r' : Record} (h : c.Admits r) {d : Definition} {old new : String}
    (hold : c.get? old = some d) (hrenamed : Record.Renamed old new r r') :
    (changed ((c.definitions.erase old).insert new { d with name := new })).Admits r' := by
  intro name values hvalues
  by_cases hnewName : name = new
  · subst hnewName
    rw [hrenamed.moved] at hvalues
    obtain ⟨hsome, d', hd', hadmits⟩ := h old values hvalues
    cases hold.symm.trans hd'
    refine ⟨hsome, { d with name }, ?_, hadmits.congr rfl rfl hadmits.single⟩
    rw [get?_insert, if_pos rfl]
  · have holdName : name ≠ old := by
      rintro rfl
      cases hrenamed.gone.symm.trans hvalues
    rw [hrenamed.others name holdName hnewName] at hvalues
    obtain ⟨hsome, d', hd', hadmits⟩ := h name values hvalues
    refine ⟨hsome, d', ?_, hadmits⟩
    rw [get?_insert, if_neg (Ne.symm hnewName), OrderedMap.getElem?_erase,
      if_neg (Ne.symm holdName)]
    exact hd'

theorem Admits.remove {r : Record} (h : c.Admits r) (removed : String) :
    (changed (c.definitions.erase removed)).Admits
      (if PlainStore.holds removed r then r.setValues removed [] else r) := by
  have hget : ∀ name, removed ≠ name →
      (changed (c.definitions.erase removed)).get? name = c.get? name := by
    intro name hne
    rw [get?_erase, if_neg hne]
    rfl
  split
  · intro name values hvalues
    rw [Record.getElem?_setValues] at hvalues
    split at hvalues
    · cases hvalues
    · rename_i hne
      obtain ⟨hsome, d, hd, hadmits⟩ := h name values hvalues
      exact ⟨hsome, d, (hget name hne).trans hd, hadmits⟩
  · rename_i hholds
    have hnil : r.values removed = [] := by simpa [PlainStore.holds] using hholds
    refine h.of_get? fun name values hvalues => hget name fun heq => ?_
    rw [← heq, h.getElem?_eq_none hnil] at hvalues
    cases hvalues

theorem Admits.setMultiplicity {r : Record} (h : c.Admits r) {d : Definition} {name : String}
    {multiple : Bool} (hname : c.get? name = some d)
    (hfew : multiple = false → (r.values name).length ≤ 1) :
    (changed (c.definitions.insert name { d with multiple })).Admits r := by
  intro property values hvalues
  obtain ⟨hne, d', hd', hadmits⟩ := h property values hvalues
  refine ⟨hne, ?_⟩
  by_cases heq : name = property
  · subst heq
    rw [hname] at hd'
    cases hd'
    have hheld : r.values name = values := by
      unfold Record.values
      rw [ExtTreeMap.getD_eq_getD_getElem?, hvalues]
      rfl
    refine ⟨{ d with multiple }, ?_, hadmits.congr rfl rfl fun hsingle => hheld ▸ hfew hsingle⟩
    rw [get?_insert, if_pos rfl]
  · refine ⟨d', ?_, hadmits⟩
    rw [get?_insert, if_neg heq]
    exact hd'

end Catalog

/-! ### All records -/

namespace Store

variable {s s' : Store} {c c' : Catalog}

/-- All records of the store are admitted by the catalog. -/
def AdmittedBy (s : Store) (c : Catalog) : Prop :=
  ∀ (id : RecordId) (r : Record), s.records[id]? = some r → c.Admits r

/-- Records are edited into ones that the other catalog admits. -/
theorem AdmittedBy.edit (h : s.AdmittedBy c) {which : Record → Bool}
    {change : Record → Record} (hplain : s'.plain = s.plain.edit which change)
    (hadmits : ∀ r, c.Admits r → c'.Admits (if which r then change r else r)) :
    s'.AdmittedBy c' := by
  intro id r hr
  have hrecords : s'.records = (s.plain.edit which change).records :=
    congrArg PlainStore.records hplain
  rw [hrecords, PlainStore.getElem?_edit, Option.map_eq_some_iff] at hr
  obtain ⟨q, hq, rfl⟩ := hr
  exact hadmits q (h id q hq)

theorem AdmittedBy.insert (h : s.AdmittedBy c) {r : Record} (hr : c.Admits r) {id : RecordId}
    (hrecords : s'.records = s.records.insert id { r with id }) : s'.AdmittedBy c := by
  intro i q hq
  rw [hrecords, OrderedMap.getElem?_insert] at hq
  split at hq
  · cases hq
    exact hr
  · exact h i q hq

theorem AdmittedBy.erase (h : s.AdmittedBy c) {id : RecordId}
    (hrecords : s'.records = s.records.erase id) : s'.AdmittedBy c := by
  intro i q hq
  rw [hrecords, OrderedMap.getElem?_erase] at hq
  split at hq
  · cases hq
  · exact h i q hq

/-- **Records follow the catalog.** -/
theorem AdmittedBy.applyChange (h : s.AdmittedBy c) (hs : s.Sound) {change : CatalogChange}
    (hchanges : c.Changes c' change) {count : Nat} (hs' : s.applyChange change = .ok (count, s')) :
    s'.AdmittedBy c' := by
  have hplain := hs.plain_of_applyChange hs'
  cases hchanges with
  | defined d _ hnew =>
      cases hs'
      exact fun id r hr => (h id r hr).define hnew
  | renamed d old new _ hold hnew =>
      have heq : s'.plain = s.plain.edit (PlainStore.holds old) (renameIn old new) :=
        congrArg Prod.snd (Except.ok.inj hplain)
      have hne : old ≠ new := Catalog.ne_of_get? hold hnew
      exact h.edit heq fun r hr => hr.rename hold (hr.renamed hne hnew)
  | removed name =>
      have heq : s'.plain = s.plain.edit (PlainStore.holds name) (·.setValues name []) :=
        congrArg Prod.snd (Except.ok.inj hplain)
      exact h.edit heq fun r hr => hr.remove name
  | multiplicity d name multiple hname =>
      rw [PlainStore.applyChange] at hplain
      split at hplain
      · rename_i hfew
        have heq : s'.plain = s.plain := congrArg Prod.snd (Except.ok.inj hplain)
        have hrecords : s'.records = s.records := congrArg PlainStore.records heq
        intro id r hr
        rw [hrecords] at hr
        refine (h id r hr).setMultiplicity hname fun hsingle => ?_
        have hid : r.id = id := hs.keyed id r hr
        have hle := s.plain.length_values_le name (hs.mem_toList.mpr (hid ▸ hr))
        have hmost : s.plain.maxValueCount name ≤ 1 := by simpa [hsingle] using hfew
        exact Nat.le_trans hle hmost
      · cases hplain

/-- The store keeps the definitions of the changed catalog. -/
theorem definitions_keepDefinitions {change : CatalogChange} (hchanges : c.Changes c' change)
    (hnamed : OrderedMap.Keyed Definition.name c.definitions)
    (hs : s.definitions = c.definitions) :
    (s.keepDefinitions c' change).definitions = c'.definitions := by
  cases hchanges with
  | defined d _ hnew =>
      have hget : (Catalog.changed (c.definitions.insert d.name d)).get? d.name = some d := by
        rw [Catalog.get?_insert, if_pos rfl]
      simp only [keepDefinitions, hget]
      show s.definitions.insert d.name d = _
      rw [hs]
      rfl
  | renamed d old new _ hold hnew =>
      have hget : (Catalog.changed
          ((c.definitions.erase old).insert new { d with name := new })).get? new =
            some { d with name := new } := by
        rw [Catalog.get?_insert, if_pos rfl]
      simp only [keepDefinitions, hget]
      show (s.definitions.erase old).insert new _ = _
      rw [hs]
      rfl
  | removed name =>
      show s.definitions.erase name = _
      rw [hs]
      rfl
  | multiplicity d name multiple hname =>
      have hget : (Catalog.changed (c.definitions.insert name { d with multiple })).get? name =
          some { d with multiple } := by
        rw [Catalog.get?_insert, if_pos rfl]
      have hown : d.name = name := hnamed name d hname
      simp only [keepDefinitions, hget]
      show s.definitions.insert d.name _ = _
      rw [hs, hown]
      rfl

/-- Keeping definitions touches nothing else. -/
theorem keepDefinitions_eq (s : Store) (c : Catalog) (change : CatalogChange) :
    s.keepDefinitions c change =
      { s with definitions := (s.keepDefinitions c change).definitions } := by
  cases change with
  | defined name =>
      unfold keepDefinitions
      dsimp only
      cases c.get? name <;> rfl
  | multiplicity name multiple =>
      unfold keepDefinitions
      dsimp only
      cases c.get? name <;> rfl
  | renamed old new =>
      unfold keepDefinitions
      dsimp only
      cases c.get? new <;> rfl
  | removed name => rfl

/-- Keeping definitions does not touch the records. -/
theorem Sound.keepDefinitions (hs : s.Sound) (c : Catalog) (change : CatalogChange) :
    (s.keepDefinitions c change).Sound ∧
      (s.keepDefinitions c change).records = s.records ∧
      (s.keepDefinitions c change).nextId = s.nextId := by
  have hsave : ∀ (s : Store) (name : String), s.Sound →
      ((c.get? name).elim s s.saveDefinition).Sound := by
    intro s name hs
    cases c.get? name with
    | none => exact hs
    | some d => exact hs.saveDefinition d
  refine ⟨?_, by rw [keepDefinitions_eq], by rw [keepDefinitions_eq]⟩
  cases change with
  | defined name => exact hsave s name hs
  | multiplicity name multiple => exact hsave s name hs
  | renamed old new => exact hsave _ new (hs.deleteDefinition old)
  | removed name => exact hs.deleteDefinition name

end Store

end MediaLibrary
