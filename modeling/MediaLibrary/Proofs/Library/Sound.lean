/-
The invariant of the library.

A library is sound when its store is, when the store keeps the definitions of the catalog
and each of them has a proper name, when the catalog admits every record, and when the view is
grouped by something that exists.  Records are written by seven operations and definitions changed
by four; each of them has a rule that says what it leaves, and the invariant survives all of that.
-/
import MediaLibrary.Proofs.Library.Definitions
import MediaLibrary.Proofs.Library.Operations
import MediaLibrary.Proofs.Library.Views
import MediaLibrary.Proofs.View.Parameters

namespace MediaLibrary

open Std

/-! ### Groupings that resolve -/

namespace Catalog

variable {c c' : Catalog}

/-- What the grouping names exists. -/
def Resolves (c : Catalog) (g : Grouping) : Prop := ∃ basis, g.basis c = .ok basis

theorem resolves_iff {g : Grouping} :
    c.Resolves g ↔
      if g.isProperty then (∃ d, c.get? g.field = some d)
      else ∃ field, Field.ofText? g.field = some field := by
  unfold Resolves Grouping.basis require
  cases g.isProperty with
  | true =>
      cases c.get? g.field with
      | none => simp
      | some d => simp
  | false =>
      cases Field.ofText? g.field with
      | none => simp
      | some field => simp

/-- A grouping by a field does not depend on the catalog. -/
theorem Resolves.of_get? {g : Grouping} (h : c.Resolves g)
    (hget : ∀ d, g.isProperty = true → c.get? g.field = some d →
      ∃ d', c'.get? g.field = some d') : c'.Resolves g := by
  rw [resolves_iff] at h ⊢
  split at h
  · rename_i hproperty
    obtain ⟨d, hd⟩ := h
    rw [if_pos hproperty]
    exact hget d hproperty hd
  · rename_i hfield
    rw [if_neg hfield]
    exact h

end Catalog

/-- A grouping is only set if it resolves. -/
theorem LibraryM.ensures_setGrouping {l : Library} {refused : Library → Prop}
    {grouping : Option Grouping} {post : Unit → Library → Prop} (hrefused : refused l)
    (hpost : (∀ g, grouping = some g → l.catalog.Resolves g) →
      post () { l with parameters := l.parameters.setGrouping grouping }) :
    Ensures (setGrouping grouping) l post refused := by
  unfold setGrouping
  cases grouping with
  | none => exact hpost fun g hg => by cases hg
  | some g =>
      refine ensures_ite (fun hproperty => ?_) fun hfield => ?_
      · refine ensures_bind.mpr (ensures_get.mpr (ensures_bind.mpr ?_))
        refine ensures_check (fun d hd => hpost ?_) fun e _ => hrefused
        rintro _ ⟨⟩
        refine Catalog.resolves_iff.mpr ?_
        rw [if_pos hproperty]
        unfold Catalog.require at hd
        split at hd
        · rename_i found hfound
          exact ⟨found, hfound⟩
        · cases hd
      · refine ensures_ite (fun _ => hrefused) fun hsome => hpost ?_
        rintro _ ⟨⟩
        refine Catalog.resolves_iff.mpr ?_
        rw [if_neg hfield]
        simpa [Option.isNone_iff_eq_none, Option.ne_none_iff_exists'] using hsome

namespace Library

variable {l : Library}

/-! ### The invariant -/

/-- The store and the catalog agree with each other and with the layers. -/
structure Sound (l : Library) : Prop where
  store : l.store.Sound
  /-- Opening the library again brings the same definitions back. -/
  kept : l.store.definitions = l.catalog.definitions
  proper : l.catalog.ProperlyNamed
  admitted : l.store.AdmittedBy l.catalog
  grouping : ∀ g, l.layers.grouping = some g → l.catalog.Resolves g

theorem sound_empty : empty.Sound where
  store := Store.sound_empty
  kept := rfl
  proper name d hd := by
    have hd : Store.empty.definitions[name]? = some d := hd
    simp [Store.empty] at hd
  admitted id r hr := by simp [empty, ofStore, Store.empty] at hr
  grouping g hg := by simp [empty, ofStore, layers, Layers.default] at hg

/-- Each definition is kept under its own name. -/
theorem Sound.named (h : l.Sound) : OrderedMap.Keyed Definition.name l.catalog.definitions :=
  h.kept ▸ h.store.named

/-- Only the grouping matters of the layers, and nothing of what is remembered. -/
theorem Sound.of_same {l' : Library} (h : l.Sound) (hstore : l'.store = l.store)
    (hcatalog : l'.catalog.definitions = l.catalog.definitions)
    (hgrouping : l'.layers.grouping = l.layers.grouping) : l'.Sound := by
  have hget : ∀ name, l'.catalog.get? name = l.catalog.get? name := by
    intro name
    unfold Catalog.get?
    rw [hcatalog]
  refine ⟨hstore ▸ h.store, by rw [hstore, hcatalog, h.kept], ?_, ?_, ?_⟩
  · exact fun name d hd => h.proper name d ((hget name).symm.trans hd)
  · rw [hstore]
    exact fun id r hr => (h.admitted id r hr).of_get? fun name _ _ => hget name
  · intro g hg
    rw [hgrouping] at hg
    exact (h.grouping g hg).of_get? fun d _ hd => ⟨d, (hget g.field).trans hd⟩

/-- Records are changed as the catalog admits. -/
theorem Sound.withRecords (h : l.Sound) {store : Store} {parameters : Parameters Caches}
    (hstore : store.Sound) (hdefinitions : store.definitions = l.store.definitions)
    (hadmitted : store.AdmittedBy l.catalog)
    (hgrouping : parameters.layers.grouping = l.layers.grouping) :
    Sound ⟨store, l.catalog, parameters⟩ where
  store := hstore
  kept := hdefinitions.trans h.kept
  proper := h.proper
  admitted := hadmitted
  grouping g hg := h.grouping g (hgrouping ▸ hg)

theorem Sound.insert (h : l.Sound) {r : Record} (hr : l.catalog.Admits r) {id : RecordId}
    {store : Store} (hs : l.store.insert r = .ok (id, store)) {parameters : Parameters Caches}
    (hgrouping : parameters.layers.grouping = l.layers.grouping) :
    Sound ⟨store, l.catalog, parameters⟩ := by
  obtain ⟨hsound, hdefinitions, hrecords⟩ := h.store.of_insert hs
  exact h.withRecords hsound hdefinitions (h.admitted.insert hr hrecords) hgrouping

theorem Sound.remove (h : l.Sound) (id : RecordId) {parameters : Parameters Caches}
    (hgrouping : parameters.layers.grouping = l.layers.grouping) :
    Sound ⟨(l.store.remove id).2, l.catalog, parameters⟩ :=
  h.withRecords (h.store.remove id) (Store.definitions_remove l.store id)
    (h.admitted.erase (Store.records_remove l.store id)) hgrouping

theorem Sound.setValues (h : l.Sound) {ids : List RecordId} {property : String}
    {values : List Value} (hvalues : l.catalog.AdmitsValues property values) {count : Nat}
    {store : Store} (hs : l.store.setValues ids property values = .ok (count, store))
    {parameters : Parameters Caches} (hgrouping : parameters.layers.grouping = l.layers.grouping) :
    Sound ⟨store, l.catalog, parameters⟩ := by
  obtain ⟨hsound, which, hplain⟩ := h.store.of_setValues hs
  refine h.withRecords hsound (congrArg PlainStore.definitions hplain) ?_ hgrouping
  refine h.admitted.edit hplain fun r hr => ?_
  split
  · exact hr.setValues fun _ => hvalues
  · exact hr

/-- A change of the catalog is taken over. -/
theorem Sound.takeOver (h : l.Sound) {catalog : Catalog} {change : CatalogChange}
    (hchanges : l.catalog.Changes catalog change) {count : Nat} {store : Store}
    (hs : l.store.applyChange change = .ok (count, store)) {parameters : Parameters Caches}
    (hgrouping : ∀ g, parameters.layers.grouping = some g → catalog.Resolves g) :
    Sound ⟨store.keepDefinitions catalog change, catalog, parameters⟩ := by
  obtain ⟨hsound, hdefinitions⟩ := h.store.of_applyChange hs
  obtain ⟨hkept, hrecords, _⟩ := hsound.keepDefinitions catalog change
  refine ⟨hkept, ?_, hchanges.properlyNamed h.proper, ?_, hgrouping⟩
  · exact Store.definitions_keepDefinitions hchanges h.named (hdefinitions.trans h.kept)
  · intro id r hr
    have hr : (store.keepDefinitions catalog change).records[id]? = some r := hr
    rw [hrecords] at hr
    exact h.admitted.applyChange h.store hchanges hs id r hr

/-! ### Groupings after a change of the catalog -/

/-- A property that is there before a change of another one is there afterwards. -/
private theorem resolves_of_changes {c c' : Catalog} {change : CatalogChange}
    (hchanges : c.Changes c' change) {g : Grouping} (h : c.Resolves g)
    (hrenamed : ∀ old new, change = .renamed old new → g.isProperty = true → g.field ≠ old)
    (hremoved : ∀ name, change = .removed name → g.isProperty = true → g.field ≠ name) :
    c'.Resolves g := by
  refine h.of_get? fun d hproperty hd => ?_
  rcases hchanges.get?_cases hd with ⟨new, rfl, _⟩ | rfl | ⟨multiple, _, hd'⟩ | hd'
  · exact absurd rfl (hrenamed g.field new rfl hproperty)
  · exact absurd rfl (hremoved g.field rfl hproperty)
  · exact ⟨_, hd'⟩
  · exact ⟨d, hd'⟩

/-- A grouping by a renamed property follows it to its new name. -/
private theorem resolves_renamed {c c' : Catalog} {old new : String}
    (hchanges : c.Changes c' (.renamed old new)) {g : Grouping} (h : c.Resolves g) :
    c'.Resolves (g.renamed old new) := by
  unfold Grouping.renamed
  split
  · rename_i hrenamed
    obtain ⟨hproperty, _⟩ := (Bool.and_eq_true _ _).mp hrenamed
    rw [Catalog.resolves_iff]
    show if g.isProperty = true then _ else _
    rw [if_pos hproperty]
    cases hchanges with
    | renamed d old new _ hold hnew => exact ⟨_, by rw [Catalog.get?_insert, if_pos rfl]⟩
  · rename_i hother
    refine resolves_of_changes hchanges h ?_ fun name hc => by cases hc
    rintro _ _ ⟨⟩ hproperty hfield
    exact hother (by simp [hproperty, hfield])

/-! ### Operations -/

open LibraryM

/-- Looking at a view changes neither the records nor the definitions. -/
theorem Sound.of_seen {l' : Library} (h : l.Sound) (hseen : l.Seen l') : l'.Sound := by
  cases hseen with
  | found group => exact h.of_same rfl rfl rfl
  | made group grouping groups hgrouping hgroups => exact h.of_same rfl rfl rfl

theorem Sound.withPath (h : l.Sound) (path : List Value) :
    Sound { l with parameters := l.parameters.withPath path } :=
  h.of_same rfl rfl (Parameters.grouping_withPath path)

/-- Records are stored one after the other as the catalog admits them. -/
private theorem Sound.leaves_importRecords (h : l.Sound) (records : List Record) :
    Leaves (importRecords records) l Sound := by
  refine ensures_importRecords (fun l' => l'.Sound ∧ l'.catalog = l.catalog) ⟨h, rfl⟩ ?_ ?_ ?_
  · rintro l' q r id store ⟨hl', hcatalog⟩ hq hs
    obtain ⟨hadmits, _, _⟩ := Catalog.admits_of_validateRecord hq
    exact ⟨hl'.insert (hcatalog ▸ hadmits) hs rfl, hcatalog⟩
  · exact fun l' hl' => hl'.1
  · exact fun ids l' hl' => hl'.1.of_same rfl rfl rfl

/-- A record that is moved keeps its values. -/
private theorem Sound.leaves_applyMove (h : l.Sound) (missing found : RecordId) :
    Leaves (applyMove missing found) l Sound := by
  refine ensures_applyMove h.store (h.of_same rfl rfl rfl) ?_
  intro record destination id store _ hrecord hdestination hs
  have hremoved : Sound ⟨(l.store.remove found).2, l.catalog, l.parameters⟩ := h.remove found rfl
  have hadmits : l.catalog.Admits
      { record with path := destination.path, flags := destination.flags } :=
    (h.admitted missing record hrecord).congr rfl
  exact hremoved.insert hadmits hs rfl

private theorem Sound.leaves_renameProperty (h : l.Sound) (old new : String) :
    Leaves (renameProperty old new) l Sound := by
  refine ensures_renameProperty (fun _ _ => h) fun catalog count store hchanges hs => ?_
  refine h.takeOver hchanges hs fun g hg => ?_
  rw [Parameters.layers_renameGroupingProperty] at hg
  dsimp only at hg
  rw [Option.map_eq_some_iff] at hg
  obtain ⟨g', hg', rfl⟩ := hg
  exact resolves_renamed hchanges (h.grouping g' hg')

private theorem Sound.leaves_removeProperty (h : l.Sound) (name : String) :
    Leaves (removeProperty name) l Sound := by
  refine ensures_removeProperty h fun catalog count store hchanges hs => ?_
  refine h.takeOver hchanges hs fun g hg => ?_
  split at hg
  · have hnone : (l.parameters.forceUpdate.reset .grouping).layers.grouping = none :=
      Parameters.grouping_setGrouping none
    rw [hnone] at hg
    cases hg
  · rename_i hother
    have hg : l.parameters.layers.grouping = some g := hg
    refine resolves_of_changes hchanges (h.grouping g hg) (fun _ _ hc => by cases hc) ?_
    rintro _ ⟨⟩ hproperty hfield
    refine hother ?_
    simp [Parameters.groupsBy, hg, hproperty, hfield]

private theorem Sound.leaves_setMultiplicity (h : l.Sound) (name : String) (multiple : Bool) :
    Leaves (setMultiplicity name multiple) l Sound := by
  refine ensures_setMultiplicity h fun catalog count store hchanges hs => ?_
  refine h.takeOver hchanges hs fun g hg => ?_
  have hg : l.parameters.layers.grouping = some g := by
    split at hg
    · exact hg
    · split at hg
      · rw [Parameters.classifierReset, Parameters.grouping_withPath] at hg
        simpa using hg
      · simpa using hg
  exact resolves_of_changes hchanges (h.grouping g hg) (fun _ _ hc => by cases hc)
    fun _ hc => by cases hc

private theorem Sound.leaves_defineProperty (h : l.Sound) (name : String) (kind : Kind)
    (multiple : Bool) (enumeration : Option (List Value)) (default : Option Value) :
    Leaves (defineProperty name kind multiple enumeration default) l Sound := by
  refine ensures_defineProperty h fun catalog name count store hchanges hs => ?_
  refine h.takeOver hchanges hs fun g hg => ?_
  exact resolves_of_changes hchanges (h.grouping g hg) (fun _ _ hc => by cases hc)
    fun _ hc => by cases hc

private theorem Sound.leaves_setGrouping (h : l.Sound) (grouping : Option Grouping) :
    Leaves (setGrouping grouping) l Sound := by
  refine ensures_setGrouping h fun hresolves => ?_
  refine ⟨h.store, h.kept, h.proper, h.admitted, fun g hg => hresolves g ?_⟩
  rw [← hg]
  exact (Parameters.grouping_setGrouping grouping).symm

/-- Opening the library again brings its catalog back. -/
theorem Sound.definitions_ofStore (h : l.Sound) (layers : Layers) :
    (ofStore l.store layers).catalog.definitions = l.catalog.definitions := by
  rw [← h.kept]
  exact OrderedMap.foldl_insert_values h.store.named

private theorem Sound.leaves_reopen (h : l.Sound) : Leaves LibraryM.reopen l Sound := by
  have hdefinitions := h.definitions_ofStore .default
  have hget : ∀ name, (ofStore l.store).catalog.get? name = l.catalog.get? name := by
    intro name
    unfold Catalog.get?
    rw [hdefinitions]
  refine ensures_modify.mpr ⟨h.store, h.kept.trans hdefinitions.symm, ?_, ?_, ?_⟩
  · exact fun name d hd => h.proper name d ((hget name).symm.trans hd)
  · exact fun id r hr => (h.admitted id r hr).of_get? fun name _ _ => hget name
  · intro g hg
    simp [ofStore, layers, Layers.default] at hg

/-- **Every operation keeps a library sound**, be it carried out or refused. -/
theorem Sound.after (h : l.Sound) (operation : LibraryOperation) : (l.after operation).Sound := by
  refine after_of_leaves ?_
  cases operation with
  | importRecords records => exact leaves_discard.mpr (h.leaves_importRecords records)
  | insertRecord r =>
      refine leaves_discard.mpr (ensures_insertRecord h fun _ r' id store hr hs => ?_)
      exact h.insert (Catalog.admits_of_validateRecord hr).1 hs rfl
  | updateRecord r =>
      refine ensures_updateRecord h fun r' id store hr hs => ?_
      exact h.insert (Catalog.admits_of_validateRecord hr).1 hs rfl
  | removeRecord id =>
      exact leaves_discard.mpr (ensures_removeRecord (fun _ => h.remove id rfl) h)
  | setTag ids property raw =>
      refine leaves_discard.mpr (ensures_setTag h fun values count store hvalues hs => ?_)
      exact h.setValues (Catalog.admitsValues_of_validate hvalues) hs
        (congrArg Layers.grouping (Parameters.layers_notifyModified property true))
  | defineProperty name kind multiple enumeration default =>
      exact h.leaves_defineProperty name kind multiple enumeration default
  | renameProperty old new => exact h.leaves_renameProperty old new
  | removeProperty name => exact h.leaves_removeProperty name
  | setMultiplicity name multiple => exact h.leaves_setMultiplicity name multiple
  | describeProperties =>
      exact leaves_discard.mpr (ensures_describeProperties fun _ _ => h.of_same rfl rfl rfl)
  | setSources sources => exact h.of_same rfl rfl (Parameters.grouping_setSources sources)
  | setSearch search => exact h.of_same rfl rfl (Parameters.grouping_setSearch search)
  | setGrouping grouping => exact h.leaves_setGrouping grouping
  | classifierPush value => exact ensures_classifierPush h fun path _ => h.withPath path
  | setClassifier path => exact ensures_setClassifier h fun path _ => h.withPath path
  | classifierPop => exact leaves_discard.mpr (h.withPath _)
  | classifierReset => exact h.withPath []
  | classifierSelectGroup =>
      exact leaves_discard.mpr (leaves_classifierSelectGroup (fun _ hl' => h.of_seen hl')
        fun _ path hl' _ => (h.of_seen hl').withPath path)
  | setGroup group => exact h.of_same rfl rfl rfl
  | setSort sort => exact h.of_same rfl rfl rfl
  | reset layer =>
      refine ⟨h.store, h.kept, h.proper, h.admitted, fun g hg => ?_⟩
      rcases Parameters.grouping_reset (p := l.parameters) layer with hsame | hnone
      · exact h.grouping g (hsame ▸ hg)
      · exact absurd (hnone.symm.trans hg) (by simp)
  | forceUpdate => exact h.of_same rfl rfl rfl
  | view request =>
      exact leaves_discard.mpr
        ((leaves_view l request).imp (fun _ _ => h.of_seen) fun _ => h.of_seen)
  | column selector field =>
      exact leaves_discard.mpr
        ((leaves_column l selector field).imp (fun _ _ => h.of_seen) fun _ => h.of_seen)
  | moveIndex => exact leaves_discard.mpr (ensures_moveIndex.mpr (h.of_same rfl rfl rfl))
  | moveCandidates id =>
      exact leaves_discard.mpr (ensures_moveCandidates.mpr (h.of_same rfl rfl rfl))
  | moveLabel id => exact leaves_discard.mpr (ensures_moveLabel.mpr (h.of_same rfl rfl rfl))
  | applyMove missing found => exact h.leaves_applyMove missing found
  | reopen => exact h.leaves_reopen

/-- **Every reachable library is sound.** -/
theorem sound_afterAll (operations : List LibraryOperation) : (afterAll operations).Sound :=
  afterAll_induction sound_empty (fun _ operation h => h.after operation) operations

/-- What every operation keeps in a sound library holds after every run. -/
theorem afterAll_induction_of_sound {holds : Library → Prop} (hempty : holds empty)
    (hstep : ∀ l operation, l.Sound → holds l → holds (l.after operation))
    (operations : List LibraryOperation) : holds (afterAll operations) := by
  let both (l : Library) : Prop := l.Sound ∧ holds l
  have hstart : both empty := ⟨sound_empty, hempty⟩
  have hnext : ∀ l operation, both l → both (l.after operation) := fun l operation h =>
    ⟨h.1.after operation, hstep l operation h.1 h.2⟩
  exact (afterAll_induction hstart hnext operations).2

/-! ### Opened again -/

/-- **A library that is opened again is the one that was closed.**  After any run, refused
operations included, the store keeps each definition under its own name, and the definitions it
keeps make the catalog.  What is kept of the store outside, its next identifier, its definitions
and its records, gives the store back.  So whatever layers the library is opened with, it has the
same definitions and the same records, and will assign the same identifier next. -/
theorem reopened_library_is_the_closed_one (operations : List LibraryOperation) :
    let l := afterAll operations
    let kept := Store.ofParts l.store.nextId l.store.loadDefinitions l.store.toList
    OrderedMap.Keyed Definition.name l.store.definitions ∧
      (Catalog.ofDefinitions l.store.loadDefinitions).definitions = l.catalog.definitions ∧
      (∀ layers, (ofStore kept layers).catalog.definitions = l.catalog.definitions ∧
        (ofStore kept layers).store.records = l.store.records ∧
        (ofStore kept layers).store.nextId = l.store.nextId) ∧
      (l.after .reopen).store = l.store ∧
      (l.after .reopen).catalog.definitions = l.catalog.definitions := by
  intro l kept
  have h : l.Sound := sound_afterAll operations
  have hkept : kept = l.store := h.store.ofParts_eq
  refine ⟨h.store.named, h.definitions_ofStore .default, fun layers => ?_, rfl,
    h.definitions_ofStore .default⟩
  rw [hkept]
  exact ⟨h.definitions_ofStore layers, rfl, rfl⟩

/-! ### Stored records -/

/-- **Every stored record satisfies the catalog.**  After any run, refused operations
included, a record is kept under its own identifier, which is neither zero nor the highest of
all, and has a path.  Each property that it names is defined and has a value, and its values
pass the check unchanged: they have the right kind, are members of the enumeration if there is
one, are told apart, and are one at most where the property is single-valued. -/
theorem record_satisfies_catalog (operations : List LibraryOperation) (id : RecordId) (r : Record)
    (hr : (afterAll operations).store.get? id = some r) :
    (r.id = id ∧ r.path ≠ "" ∧ id ≠ 0 ∧ id.toNat + 1 ≠ UInt64.size) ∧
      ∀ name values, (name, values) ∈ r.properties.toList →
        values ≠ [] ∧ (afterAll operations).catalog.validate name values = .ok values ∧
          ∃ d, (afterAll operations).catalog.get? name = some d ∧ d.Admits values := by
  have h := sound_afterAll operations
  have hr : (afterAll operations).store.records[id]? = some r := hr
  obtain ⟨hid, hpath, hne, hlt⟩ := h.store.kept hr
  refine ⟨⟨hid, ?_, hid ▸ hne, ?_⟩, ?_⟩
  · intro hempty
    rw [hempty] at hpath
    exact absurd hpath (by decide)
  · have hlt := UInt64.lt_iff_toNat_lt.mp (hid ▸ hlt)
    have hnext := (afterAll operations).store.nextId.toNat_lt_size
    omega
  · intro name values hmem
    rw [ExtTreeMap.mem_toList_iff_getElem?_eq_some] at hmem
    obtain ⟨hsome, hadmits⟩ := h.admitted id r hr name values hmem
    exact ⟨hsome, Catalog.validate_of_admitsValues hadmits, hadmits⟩

/-- A repeated value is stored once, and passes the check from then on. -/
theorem stored_values_pass_the_check :
    let twice : Properties := .ofList [("mood", [.str "calm", .str "calm"])] compare
    let operations : List LibraryOperation :=
      [.defineProperty "mood" .str true none none,
        .importRecords [{ path := "/a.mkv", properties := twice }]]
    (afterAll operations).catalog.validate "mood" [.str "calm"] = .ok [.str "calm"] := by
  intro twice operations
  let once : Properties := .ofList [("mood", [.str "calm"])] compare
  have hr : (afterAll operations).store.get? 1 =
      some { id := 1, path := "/a.mkv", properties := once } := by decide +kernel
  have hmem : ("mood", [.str "calm"]) ∈ once.toList := by decide +kernel
  exact ((record_satisfies_catalog operations 1 _ hr).2 "mood" [.str "calm"] hmem).2.1

end Library

end MediaLibrary
