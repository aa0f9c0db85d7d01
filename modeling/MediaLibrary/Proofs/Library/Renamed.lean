/-
Properties that are renamed.

Renaming a property changes the catalog, every record that holds it, the indices, the kept
definitions and the grouping of the view.  `RenamesTo` says what all of that comes to, as a
relation between the library before and after.  It is read in both directions: the library
before is what renaming the property back makes of the library after.  And there is only one
library to which it leads, so the way back leads to where one came from.

A view does not notice a new name.  The records that it selects are searched by terms, which do
not depend on names, and the groups are made of the same values.
-/
import MediaLibrary.Proofs.Grouping.Members
import MediaLibrary.Proofs.Library.Sound
import MediaLibrary.Proofs.Record.Renamed
import MediaLibrary.Proofs.Store.Plan

namespace MediaLibrary

open Std

/-! ### Groupings by a property -/

namespace Grouping

variable {g : Grouping}

theorem basis_of_get? {c : Catalog} {d : Definition} (hproperty : g.isProperty = true)
    (hd : c.get? g.field = some d) :
    g.basis c = .ok (if d.multiple then .several d.name else .single d.name d.default) := by
  rw [basis, if_pos hproperty, Catalog.require, hd]

theorem isProperty_renamed {old new : String} :
    (g.renamed old new).isProperty = g.isProperty := by
  unfold renamed
  split <;> rfl

theorem renamed_of_property (hproperty : g.isProperty = true) (old new : String) :
    g.renamed old new = { g with field := nameAfter old new g.field } := by
  unfold renamed nameAfter
  by_cases hold : g.field = old
  · rw [if_pos (by simp [hproperty, hold]), if_pos hold]
  · rw [if_neg (by simp [hold]), if_neg hold]

/-- A grouping by a field is not one by a property. -/
theorem renamed_of_field (hfield : g.isProperty = false) (old new : String) :
    g.renamed old new = g := by
  rw [renamed, if_neg (by simp [hfield])]

end Grouping

namespace Library

open LibraryM

variable {l l' : Library} {old new : String}

/-- What renaming a property does to a library. -/
structure RenamesTo (old new : String) (l l' : Library) : Prop where
  /-- Each record has the values under the new name, and is as it was otherwise. -/
  records : ∀ id, Option.Rel (Record.Renamed old new) (l.store.get? id) (l'.store.get? id)
  nextId : l'.store.nextId = l.store.nextId
  /-- The new name has the definition that the old one had. -/
  definition : ∃ d, l.catalog.get? old = some d ∧
    l'.catalog.get? new = some { d with name := new }
  gone : l'.catalog.get? old = none
  free : l.catalog.get? new = none
  others : ∀ name, name ≠ old → name ≠ new → l'.catalog.get? name = l.catalog.get? name
  /-- A grouping by the property is one by the new name, and the layers are as they were
  otherwise. -/
  layers : l'.layers = { l.layers with grouping := l.layers.grouping.map (·.renamed old new) }

/-! ### Renaming -/

private theorem Sound.renamesTo (h : l.Sound) {catalog : Catalog} {count : Nat} {store : Store}
    (hchanges : l.catalog.Changes catalog (.renamed old new))
    (hs : l.store.applyChange (.renamed old new) = .ok (count, store)) :
    RenamesTo old new l ⟨store.keepDefinitions catalog (.renamed old new), catalog,
      l.parameters.forceUpdate.renameGroupingProperty old new⟩ := by
  obtain ⟨hsound, _⟩ := h.store.of_applyChange hs
  obtain ⟨_, hrecords, hnextId⟩ := hsound.keepDefinitions catalog (.renamed old new)
  have hedited : store.plain = l.store.plain.edit (PlainStore.holds old)
      (Store.renameIn old new) :=
    congrArg Prod.snd (Except.ok.inj (h.store.plain_of_applyChange hs))
  have hget : ∀ id, (store.keepDefinitions catalog (.renamed old new)).get? id =
      (l.store.get? id).map fun r =>
        if PlainStore.holds old r then Store.renameIn old new r else r := by
    intro id
    have hstored : store.records[id]? = store.plain.records[id]? := rfl
    rw [Store.get?, hrecords, hstored, hedited, PlainStore.getElem?_edit]
    rfl
  cases hchanges with
  | renamed d old new hname hold hnew =>
      have hne : old ≠ new := Catalog.ne_of_get? hold hnew
      refine ⟨fun id => ?_, ?_, ⟨d, hold, ?_⟩, ?_, hnew, fun name hold hnew => ?_, ?_⟩
      · rw [hget]
        cases hr : l.store.get? id with
        | none => exact .none
        | some r => exact .some ((h.admitted id r hr).renamed hne hnew)
      · exact hnextId.trans (congrArg PlainStore.nextId hedited)
      · rw [Catalog.get?_insert, if_pos rfl]
      · rw [Catalog.get?_insert, if_neg (Ne.symm hne), OrderedMap.getElem?_erase, if_pos rfl]
      · rw [Catalog.get?_insert, if_neg (Ne.symm hnew), OrderedMap.getElem?_erase,
          if_neg (Ne.symm hold)]
        rfl
      · exact Parameters.layers_renameGroupingProperty old new

/-- **What renaming a property leaves.** -/
theorem Sound.renames (h : l.Sound) (hrun : renameProperty old new l = .ok () l') :
    RenamesTo old (Text.trim new) l l' := by
  have hensures : Ensures (renameProperty old new) l
      (fun _ l' => RenamesTo old (Text.trim new) l l') fun _ => True :=
    ensures_renameProperty (fun _ _ => trivial) fun _ _ _ hchanges hs => h.renamesTo hchanges hs
  exact hensures.of_ok hrun

/-- A property may take any proper name that is free. -/
theorem exists_renameProperty {d : Definition} (hold : l.catalog.get? old = some d)
    (hname : ProperName new) (hnew : l.catalog.get? new = none) :
    ∃ l', renameProperty old new l = .ok () l' := by
  have hensures : Ensures (renameProperty old new) l (fun _ _ => True) fun _ => False := by
    refine ensures_renameProperty (fun e he => ?_) fun _ _ _ _ _ => trivial
    cases (Catalog.rename_eq hold hname hnew).symm.trans he
  obtain ⟨_, l', hrun, _⟩ := hensures.exists_ok
  exact ⟨l', hrun⟩

namespace RenamesTo

/-! ### There and back -/

/-- A grouping that resolves is not by a name that is free. -/
private theorem renamed_renamed (h : RenamesTo old new l l') (hl : l.Sound) {g : Grouping}
    (hg : l.layers.grouping = some g) : (g.renamed old new).renamed new old = g := by
  have hsame : (g.renamed old new).isProperty = g.isProperty := Grouping.isProperty_renamed
  cases hproperty : g.isProperty with
  | false =>
      rw [Grouping.renamed_of_field (hsame.trans hproperty), Grouping.renamed_of_field hproperty]
  | true =>
      have hresolves := Catalog.resolves_iff.mp (hl.grouping g hg)
      rw [if_pos hproperty] at hresolves
      obtain ⟨d, hd⟩ := hresolves
      rw [Grouping.renamed_of_property (hsame.trans hproperty),
        Grouping.renamed_of_property hproperty, nameAfter_nameAfter (Catalog.ne_of_get? hd h.free)]

/-- The way back is the same again. -/
theorem symm (h : RenamesTo old new l l') (hl : l.Sound) : RenamesTo new old l' l where
  records id := by
    have hr := h.records id
    generalize l.store.get? id = before, l'.store.get? id = after at hr
    cases hr with
    | none => exact .none
    | some hr => exact .some hr.symm
  nextId := h.nextId.symm
  definition := by
    obtain ⟨d, hd, hd'⟩ := h.definition
    refine ⟨_, hd', ?_⟩
    rw [hd, ← hl.named old d hd]
  gone := h.free
  free := h.gone
  others name hnew hold := (h.others name hold hnew).symm
  layers := by
    rw [h.layers]
    cases hg : l.layers.grouping with
    | none => rw [Option.map_none, Option.map_none, ← hg]
    | some g => rw [Option.map_some, Option.map_some, h.renamed_renamed hl hg, ← hg]

/-- **There is one way only.** -/
theorem unique {l'' : Library} (h : RenamesTo old new l l') (h' : RenamesTo old new l l'')
    (hl' : l'.Sound) (hl'' : l''.Sound) :
    l'.store = l''.store ∧ l'.catalog.definitions = l''.catalog.definitions ∧
      l'.layers = l''.layers := by
  have hdefinitions : l'.catalog.definitions = l''.catalog.definitions := by
    refine ExtTreeMap.ext_getElem? fun name => ?_
    show l'.catalog.get? name = l''.catalog.get? name
    by_cases hnew : name = new
    · obtain ⟨d, hd, hd'⟩ := h.definition
      obtain ⟨_, hd₂, hd''⟩ := h'.definition
      cases hd.symm.trans hd₂
      rw [hnew, hd', hd'']
    · by_cases hold : name = old
      · rw [hold, h.gone, h'.gone]
      · rw [h.others name hold hnew, h'.others name hold hnew]
  have hrecords : l'.store.records = l''.store.records := by
    refine ExtTreeMap.ext_getElem? fun id => ?_
    show l'.store.get? id = l''.store.get? id
    have hr := h.records id
    have hr' := h'.records id
    generalize l.store.get? id = before, l'.store.get? id = after,
      l''.store.get? id = after' at hr hr'
    cases hr with
    | none =>
        cases hr'
        rfl
    | some hr =>
        cases hr' with
        | some hr' => rw [hr.unique hr']
  refine ⟨hl'.store.eq_of_plain_eq hl''.store ?_, hdefinitions, h.layers.trans h'.layers.symm⟩
  rw [Store.plain, Store.plain, hrecords, hl'.kept, hl''.kept, hdefinitions, h.nextId, h'.nextId]

/-! ### The view -/

/-- The records are renamed one by one. -/
theorem exists_toList_eq (h : RenamesTo old new l l') (hl : l.Sound) :
    ∃ change : Record → Record, l'.store.toList = l.store.toList.map change ∧
      ∀ r ∈ l.store.toList, Record.Renamed old new r (change r) := by
  let change (r : Record) : Record := (l'.store.get? r.id).getD r
  have hrel : ∀ (id : RecordId) (r : Record), l.store.records[id]? = some r →
      l'.store.records[id]? = some (change r) ∧ Record.Renamed old new r (change r) := by
    intro id r hr
    obtain rfl := hl.store.keyed id r hr
    have hrenamed := h.records r.id
    rw [Store.get?, hr] at hrenamed
    show l'.store.get? r.id = some ((l'.store.get? r.id).getD r) ∧
      Record.Renamed old new r ((l'.store.get? r.id).getD r)
    generalize l'.store.get? r.id = after at hrenamed
    cases hrenamed with
    | some hr => exact ⟨rfl, hr⟩
  have hrecords : l'.store.records = l.store.records.map fun _ r => change r := by
    refine ExtTreeMap.ext_getElem? fun id => ?_
    rw [ExtTreeMap.getElem?_map]
    cases hr : l.store.records[id]? with
    | some r => exact (hrel id r hr).1
    | none =>
        have hrenamed := h.records id
        rw [Store.get?, hr] at hrenamed
        show l'.store.get? id = none
        generalize l'.store.get? id = after at hrenamed
        cases hrenamed
        rfl
  refine ⟨change, ?_, fun r hr => (hrel r.id r (hl.store.mem_toList.mp hr)).2⟩
  rw [Store.toList, hrecords, ExtTreeMap.toList_map, List.map_map, Store.toList, List.map_map]
  rfl

/-- **The same records are selected**, but for a search for a text as it stands. -/
theorem exists_select_eq (h : RenamesTo old new l l') (hl : l.Sound) (hl' : l'.Sound)
    (hsearch : ∀ s, l.layers.search = some s → s.condition ≠ .exact) {filter filter' : Filter}
    (hfilter : l.filter = .ok filter) (hfilter' : l'.filter = .ok filter') :
    ∃ change : Record → Record, l'.store.select filter' = (l.store.select filter).map change ∧
      ∀ r ∈ l.store.select filter, Record.Renamed old new r (change r) := by
  obtain ⟨change, hlist, hrenamed⟩ := h.exists_toList_eq hl
  refine ⟨change, hl.store.select_map hl'.store hlist fun r hr => ?_,
    fun r hr => hrenamed r (hl.store.mem_select.mp hr).1⟩
  have hr' : change r ∈ l'.store.toList := hlist ▸ List.mem_map_of_mem hr
  rw [Library.filter, h.layers] at hfilter'
  rw [Bool.eq_iff_iff, hl'.store.accepts_viewFilter hr' hfilter',
    hl.store.accepts_viewFilter hr hfilter, (hrenamed r hr).fromSources_iff,
    (hrenamed r hr).searchedFor_iff hsearch]

/-- A property is defined under the name by which it goes. -/
private theorem get?_nameAfter (h : RenamesTo old new l l') (hl : l.Sound) {name : String}
    {d : Definition} (hd : l.catalog.get? name = some d) :
    l'.catalog.get? (nameAfter old new name) = some { d with name := nameAfter old new name } ∧
      name ≠ new := by
  have hnew : name ≠ new := Catalog.ne_of_get? hd h.free
  refine ⟨?_, hnew⟩
  unfold nameAfter
  split
  · rename_i heq
    obtain ⟨d', hd', hrenamed⟩ := h.definition
    rw [← heq] at hd'
    cases hd.symm.trans hd'
    exact hrenamed
  · rename_i hold
    rw [h.others name hold hnew, hd, ← hl.named name d hd]

/-- Records are grouped by the new name. -/
private theorem basis_renamed (h : RenamesTo old new l l') (hl : l.Sound) {g : Grouping}
    {basis : Basis} (hbasis : g.basis l.catalog = .ok basis) :
    (g.renamed old new).basis l'.catalog = .ok (basis.renamed old new) ∧ ¬basis.Reads new := by
  cases hproperty : g.isProperty with
  | false =>
      rw [Grouping.renamed_of_field hproperty]
      rw [Grouping.basis, if_neg (by simp [hproperty])] at hbasis ⊢
      split at hbasis
      · cases hbasis
        exact ⟨rfl, id⟩
      · cases hbasis
  | true =>
      have hresolves := Catalog.resolves_iff.mp ⟨basis, hbasis⟩
      rw [if_pos hproperty] at hresolves
      obtain ⟨d, hd⟩ := hresolves
      obtain ⟨hd', hnew⟩ := h.get?_nameAfter hl hd
      rw [Grouping.basis_of_get? hproperty hd, hl.named g.field d hd] at hbasis
      cases hbasis
      have hrenamed := Grouping.renamed_of_property hproperty old new
      rw [Grouping.basis_of_get? (Grouping.isProperty_renamed.trans hproperty)
        (by rw [hrenamed, hd'])]
      cases d.multiple <;> exact ⟨rfl, hnew⟩

/-- **The groups are the same**, their values, records, lengths and order, but for a search for
a text as it stands. -/
theorem exists_freshGroups_eq (h : RenamesTo old new l l') (hl : l.Sound) (hl' : l'.Sound)
    (hsearch : ∀ s, l.layers.search = some s → s.condition ≠ .exact) {g : Grouping}
    (hg : l.layers.grouping = some g) :
    ∃ groups, l.freshGroups g = .ok groups ∧
      l'.freshGroups (g.renamed old new) = .ok groups := by
  obtain ⟨basis, hbasis⟩ := hl.grouping g hg
  obtain ⟨hbasis', hnew⟩ := h.basis_renamed hl hbasis
  obtain ⟨filter, hfilter⟩ := l.exists_filter
  obtain ⟨filter', hfilter'⟩ := l'.exists_filter
  obtain ⟨change, hselect, hrenamed⟩ := h.exists_select_eq hl hl' hsearch hfilter hfilter'
  refine ⟨groupsOn basis g l.layers.path (l.store.select filter), ?_, ?_⟩
  · rw [freshGroups_eq hfilter, computeGroups, groupsOf, hbasis]
    rfl
  · have hclassified : (basis.renamed old new).hasClassified l.layers.path =
        basis.hasClassified l.layers.path := by cases basis <;> rfl
    have hgroups := groupsOn_map hclassified
      (fun r hr => (hrenamed r hr).unnoticed hnew l.layers.path) g
    -- The name of a property has no part in how groups are arranged.
    have harrange : groupsOn (basis.renamed old new) (g.renamed old new) =
        groupsOn (basis.renamed old new) g := by
      unfold Grouping.renamed
      split <;> rfl
    rw [freshGroups_eq hfilter', computeGroups, groupsOf, hbasis', hselect, h.layers, ← hgroups,
      ← harrange]
    rfl

end RenamesTo

/-- **A property that is renamed is the same property.**  Take any state that a run reaches,
refused operations included, and a property that is renamed in it.  Each record has under the
new name, without the blanks around it, the values that it had under the old one, and the
catalog has the definition; a grouping by the property follows it, and all else is as it was.
Unless a text is searched for as it stands, the view selects the same records and has the same
groups.  And renaming the property back is not refused and brings back the records with their
indices, the definitions, both kept and in the catalog, and the layers. -/
theorem renamed_property_is_the_same (operations : List LibraryOperation)
    (hrun : renameProperty old new (afterAll operations) = .ok () l') :
    let l := afterAll operations
    RenamesTo old (Text.trim new) l l' ∧
      ((∀ s, l.layers.search = some s → s.condition ≠ .exact) →
        (∃ filter filter', l.filter = .ok filter ∧ l'.filter = .ok filter' ∧
          (l'.store.select filter').map (·.id) = (l.store.select filter).map (·.id)) ∧
        ∀ g, l.layers.grouping = some g → ∃ groups, l.freshGroups g = .ok groups ∧
          l'.freshGroups (g.renamed old (Text.trim new)) = .ok groups) ∧
      ∃ back, renameProperty (Text.trim new) old l' = .ok () back ∧ back.store = l.store ∧
        back.catalog.definitions = l.catalog.definitions ∧ back.layers = l.layers := by
  intro l
  have hl : l.Sound := sound_afterAll operations
  have hl' : l'.Sound := after_of_ok (.renameProperty old new) hrun ▸ hl.after _
  have h := hl.renames hrun
  refine ⟨h, fun hsearch => ⟨?_, fun g hg => h.exists_freshGroups_eq hl hl' hsearch hg⟩, ?_⟩
  · obtain ⟨filter, hfilter⟩ := l.exists_filter
    obtain ⟨filter', hfilter'⟩ := l'.exists_filter
    obtain ⟨change, hselect, hrenamed⟩ := h.exists_select_eq hl hl' hsearch hfilter hfilter'
    refine ⟨filter, filter', hfilter, hfilter', ?_⟩
    rw [hselect, List.map_map]
    exact List.map_congr_left fun r hr => (hrenamed r hr).id_eq
  · obtain ⟨d, hold, hnew⟩ := h.definition
    have hname := hl.proper old d hold
    obtain ⟨back, hback⟩ := exists_renameProperty hnew hname h.gone
    have hsound : back.Sound := after_of_ok (.renameProperty _ old) hback ▸ hl'.after _
    have hrenames := hl'.renames hback
    rw [hname.trimmed] at hrenames
    exact ⟨back, hback, hrenames.unique (h.symm hl) hsound hl⟩

/-- The name of a property moves to the end of the order of names, and back. -/
theorem renamed_mood_is_found_as_before :
    let mood : Grouping := { field := "mood", isProperty := true, allowSingletons := true }
    let properties : Properties := .ofList [("mood", [.str "calm"]), ("place", [.str "Rome"])] compare
    let operations : List LibraryOperation :=
      [.defineProperty "mood" .str true none none, .defineProperty "place" .str true none none,
        .importRecords [{ path := "/a.mkv", properties }, { path := "/b.mkv" }],
        .setSearch (some ⟨"rome calm", .and⟩), .setGrouping (some mood)]
    let l := afterAll operations
    ∃ l' back groups, renameProperty "mood" " tone " l = .ok () l' ∧
      l'.layers.grouping = some { mood with field := "tone" } ∧
      l.freshGroups mood = .ok groups ∧
      l'.freshGroups { mood with field := "tone" } = .ok groups ∧
      renameProperty "tone" "mood" l' = .ok () back ∧ back.store = l.store := by
  intro mood properties operations l
  have hsome : (Checked.answer? (renameProperty "mood" " tone " l)).isSome := by decide +kernel
  obtain ⟨⟨_, l'⟩, hanswer⟩ := Option.isSome_iff_exists.mp hsome
  have hrun := Checked.eq_ok_of_answer? hanswer
  have hlayers : l.layers = ⟨Layers.defaultSources, some mood, [], 0, some ⟨"rome calm", .and⟩,
    Layers.defaultSort⟩ := by decide +kernel
  have htrim : Text.trim " tone " = "tone" := by decide
  obtain ⟨h, hview, back, hback, hstore, _⟩ := renamed_property_is_the_same operations hrun
  rw [htrim] at h hview hback
  have hsearch : ∀ s, l.layers.search = some s → s.condition ≠ .exact := by
    rw [hlayers]
    rintro s ⟨⟩
    decide
  obtain ⟨groups, hgroups, hgroups'⟩ := (hview hsearch).2 mood (by rw [hlayers])
  exact ⟨l', back, groups, hrun, by rw [h.layers, hlayers]; rfl, hgroups, hgroups', hback, hstore⟩

end Library

end MediaLibrary
