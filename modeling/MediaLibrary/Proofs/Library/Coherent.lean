/-
The path of a view.

A path belongs to the property that the view is grouped by, and that property is changed
elsewhere: it can be renamed, removed and made single-valued.  The view follows the new name of
its property, is not grouped any more without it, and forgets its path when only one value is
left to choose.  So whatever is done to a library, its layers stay coherent.
-/
import MediaLibrary.Proofs.Library.Sound
import MediaLibrary.Proofs.View.Coherent

namespace MediaLibrary

/-! ### Changes of the catalog -/

/-- The property from which a change takes its name, its values, or all values but one. -/
def CatalogChange.restricted? : CatalogChange → Option String
  | .renamed old _ => some old
  | .removed name => some name
  | .multiplicity name false => some name
  | _ => none

namespace Catalog

variable {c c' : Catalog} {change : CatalogChange} {path : List Value}

/-- A path stays one if the change restricts another property. -/
theorem AdmitsPath.of_changes {grouping : Option Grouping} (h : c.AdmitsPath grouping path)
    (hchanges : c.Changes c' change)
    (hother : ∀ g, grouping = some g → g.isProperty = true → change.restricted? ≠ some g.field) :
    c'.AdmitsPath grouping path := by
  intro hne
  obtain ⟨g, d, hg, hproperty, hd, hmultiple, hadmits⟩ := h hne
  have hother := hother g hg hproperty
  rcases hchanges.get?_cases hd with ⟨new, rfl, _⟩ | rfl | ⟨multiple, rfl, hd'⟩ | hd'
  · exact absurd rfl hother
  · exact absurd rfl hother
  · cases multiple with
    | false => exact absurd rfl hother
    | true =>
        -- The property had several values before, so nothing new is admitted.
        refine ⟨g, { d with multiple := true }, hg, hproperty, hd', rfl, ?_⟩
        exact hadmits.congr rfl rfl fun hsingle => absurd hsingle (by simp)
  · exact ⟨g, d, hg, hproperty, hd', hmultiple, hadmits⟩

/-- A path goes over to the new name of its property. -/
theorem AdmitsPath.renamed {g : Grouping} {new : String} (h : c.AdmitsPath (some g) path)
    (hchanges : c.Changes c' (.renamed g.field new)) :
    c'.AdmitsPath (some { g with field := new }) path := by
  intro hne
  obtain ⟨_, d, ⟨⟩, hproperty, hd, hmultiple, hadmits⟩ := h hne
  generalize hfield : g.field = old at hchanges hd
  cases hchanges with
  | renamed d' old new _ hold _ =>
      cases hold.symm.trans hd
      refine ⟨{ g with field := new }, { d with name := new }, rfl, hproperty, ?_, hmultiple, ?_⟩
      · rw [get?_insert, if_pos rfl]
      · exact hadmits.congr rfl rfl hadmits.single

end Catalog

/-! ### Layers after a change -/

namespace Layers.Coherent

variable {c c' : Catalog} {κ : Type} {p : Parameters κ}

/-- The view is not grouped by what the change restricts. -/
theorem of_changes (h : p.layers.Coherent c) {change : CatalogChange}
    (hchanges : c.Changes c' change)
    (hother : ∀ name, change.restricted? = some name → ¬p.groupsBy name true = true) :
    p.layers.Coherent c' := by
  refine ⟨h.path.of_changes hchanges fun g hg hproperty hrestricted => ?_, h.search⟩
  exact hother g.field hrestricted (Parameters.groupsBy_property.mpr ⟨g, hg, hproperty, rfl⟩)

variable [Invalidate κ] {name : String}

theorem renamed (h : p.layers.Coherent c) {old new : String}
    (hchanges : c.Changes c' (.renamed old new)) :
    (p.renameGroupingProperty old new).layers.Coherent c' := by
  by_cases hgrouped : p.groupsBy old true = true
  · obtain ⟨g, hg, hproperty, rfl⟩ := Parameters.groupsBy_property.mp hgrouped
    have hpath : c.AdmitsPath (some g) p.layers.path := hg ▸ h.path
    rw [Parameters.renameGroupingProperty, hg]
    dsimp only
    rw [if_pos (by simpa using hproperty)]
    exact ⟨hpath.renamed hchanges, h.search⟩
  · rw [Parameters.renameGroupingProperty_of_not_groupsBy hgrouped]
    refine h.of_changes hchanges ?_
    rintro _ ⟨⟩
    exact hgrouped

theorem removed (h : p.layers.Coherent c) (hchanges : c.Changes c' (.removed name)) :
    (if p.groupsBy name true then p.reset .grouping else p).layers.Coherent c' := by
  split
  · rename_i hgrouped
    obtain ⟨g, hg, _⟩ := Parameters.groupsBy_property.mp hgrouped
    -- The view was grouped, so that no grouping is another one and forgets the path.
    have hother : p.layers.grouping ≠ none := by simp [hg]
    rw [Parameters.reset, Parameters.setGrouping, if_neg hother]
    exact ⟨Catalog.admitsPath_nil none, h.search⟩
  · rename_i hother
    refine h.of_changes hchanges ?_
    rintro _ ⟨⟩
    exact hother

theorem multiplied (h : p.layers.Coherent c) {multiple : Bool}
    (hchanges : c.Changes c' (.multiplicity name multiple)) :
    (if multiple then p
      else if (p.notifyModified name true).1 then (p.notifyModified name true).2.classifierReset
      else (p.notifyModified name true).2).layers.Coherent c' := by
  unfold Parameters.notifyModified
  cases multiple with
  | true =>
      refine h.of_changes hchanges ?_
      rintro _ ⟨⟩
  | false =>
      by_cases hgrouped : p.groupsBy name true = true
      · have hforced : p.forceUpdate.layers.Coherent c := h
        rw [if_pos hgrouped]
        exact hforced.classifierReset c'
      · rw [if_neg hgrouped]
        refine h.of_changes hchanges ?_
        rintro _ ⟨⟩
        exact hgrouped

end Layers.Coherent

/-! ### Operations -/

namespace Library

variable {l : Library}

/-- The layers fit the definitions of the library. -/
def Coherent (l : Library) : Prop := l.layers.Coherent l.catalog

/-- Looking at a view may move the choice of a group. -/
theorem Coherent.of_seen {l' : Library} (h : l.Coherent) (hseen : l.Seen l') : l'.Coherent := by
  cases hseen with
  | found group => exact h.congr rfl rfl rfl
  | made group grouping groups hgrouping hgroups => exact h.congr rfl rfl rfl

theorem Coherent.withPath (h : l.Coherent) {path : List Value}
    (hpath : l.parameters.MayFollow l.catalog path) :
    Coherent { l with parameters := l.parameters.withPath path } :=
  Layers.Coherent.withPath h hpath

/-- What is remembered of the descriptions does not matter. -/
theorem Coherent.of_described (h : l.Coherent) (described : Option (List Description)) :
    Coherent { l with catalog := { l.catalog with described } } :=
  ⟨h.path, h.search⟩

open LibraryM

/-- **Every operation keeps the layers coherent**, be it carried out or refused. -/
theorem Coherent.after (h : l.Coherent) (hs : l.Sound) (operation : LibraryOperation) :
    (l.after operation).Coherent := by
  have hforced : l.parameters.forceUpdate.layers.Coherent l.catalog := h
  refine after_of_leaves ?_
  cases operation with
  | importRecords records =>
      refine leaves_discard.mpr (ensures_importRecords (fun l' => l'.Coherent) h ?_ ?_ ?_)
      · exact fun l' _ _ _ _ hl' _ _ => hl'
      · exact fun l' hl' => hl'
      · exact fun _ l' hl' => hl'
  | insertRecord r => exact leaves_discard.mpr (ensures_insertRecord h fun _ _ _ _ _ _ => h)
  | updateRecord r => exact ensures_updateRecord h fun _ _ _ _ _ => h
  | removeRecord id => exact leaves_discard.mpr (ensures_removeRecord (fun _ => h) h)
  | setTag ids property raw =>
      refine leaves_discard.mpr (ensures_setTag h fun values count store _ _ => ?_)
      exact Layers.Coherent.congr h (by simp [layers]) (by simp [layers]) (by simp [layers])
  | defineProperty name kind multiple enumeration default =>
      refine ensures_defineProperty h fun catalog name count store hchanges _ => ?_
      exact hforced.of_changes hchanges fun _ hc => by cases hc
  | renameProperty old new =>
      exact ensures_renameProperty (fun _ _ => h) fun catalog count store hchanges _ =>
        hforced.renamed hchanges
  | removeProperty name =>
      exact ensures_removeProperty h fun catalog count store hchanges _ => hforced.removed hchanges
  | setMultiplicity name multiple =>
      exact ensures_setMultiplicity h fun catalog count store hchanges _ =>
        hforced.multiplied hchanges
  | describeProperties =>
      exact leaves_discard.mpr (ensures_describeProperties fun _ described =>
        h.of_described described)
  | setSources sources => exact Layers.Coherent.setSources h sources
  | setSearch search => exact Layers.Coherent.setSearch h search
  | setGrouping grouping =>
      exact ensures_setGrouping h fun _ => Layers.Coherent.setGrouping h grouping
  | classifierPush value => exact ensures_classifierPush h fun path hpath => h.withPath hpath
  | setClassifier path => exact ensures_setClassifier h fun path hpath => h.withPath hpath
  | classifierPop => exact leaves_discard.mpr (Layers.Coherent.classifierPop h)
  | classifierReset => exact Layers.Coherent.classifierReset h l.catalog
  | classifierSelectGroup =>
      exact leaves_discard.mpr (leaves_classifierSelectGroup (fun _ hseen => h.of_seen hseen)
        fun _ path hseen hpath => (h.of_seen hseen).withPath hpath)
  | setGroup group => exact Layers.Coherent.congr h rfl rfl rfl
  | setSort sort => exact Layers.Coherent.congr h rfl rfl rfl
  | reset layer => exact Layers.Coherent.reset h layer
  | forceUpdate => exact h
  | view request =>
      exact leaves_discard.mpr
        ((leaves_view l request).imp (fun _ _ => h.of_seen) fun _ => h.of_seen)
  | column selector field =>
      exact leaves_discard.mpr
        ((leaves_column l selector field).imp (fun _ _ => h.of_seen) fun _ => h.of_seen)
  | moveIndex => exact leaves_discard.mpr (ensures_moveIndex.mpr h)
  | moveCandidates id => exact leaves_discard.mpr (ensures_moveCandidates.mpr h)
  | moveLabel id => exact leaves_discard.mpr (ensures_moveLabel.mpr h)
  | applyMove missing found => exact ensures_applyMove hs.store h fun _ _ _ _ _ _ _ _ => h
  | reopen => exact ensures_modify.mpr (Layers.Coherent.default _)

/-- **The layers of every reachable library are coherent.** -/
theorem coherent_afterAll (operations : List LibraryOperation) :
    (afterAll operations).Coherent :=
  afterAll_induction_of_sound (Layers.Coherent.default _)
    (fun _ operation hs h => h.after hs operation) operations

/-- **The path fits the grouping, and no search is blank.**  After any run, refused operations
included, there is a path only if the view is grouped by a property that is defined at that time
and may have several values.  No value of the path comes twice, and each one passes the check of
that property alone and unchanged. -/
theorem path_fits_grouping (operations : List LibraryOperation) :
    let l := afterAll operations
    (l.layers.path ≠ [] → ∃ g d, l.layers.grouping = some g ∧ g.isProperty = true ∧
        l.catalog.get? g.field = some d ∧ d.multiple = true) ∧
      l.layers.path.Nodup ∧
      (∀ value ∈ l.layers.path, ∃ g, l.layers.grouping = some g ∧
        l.catalog.validate g.field [value] = .ok [value]) ∧
      ∀ s, l.layers.search = some s → s.isBlank = false := by
  intro l
  obtain ⟨hpath, hsearch⟩ : l.Coherent := coherent_afterAll operations
  refine ⟨fun hne => ?_, ?_, fun value hvalue => ?_, hsearch⟩
  · obtain ⟨g, d, hg, hproperty, hd, hmultiple, _⟩ := hpath hne
    exact ⟨g, d, hg, hproperty, hd, hmultiple⟩
  · by_cases hnil : l.layers.path = []
    · rw [hnil]
      exact List.nodup_nil
    · obtain ⟨_, _, _, _, _, _, hadmits⟩ := hpath hnil
      exact hadmits.nodup
  · obtain ⟨g, d, hg, _, hd, _, hadmits⟩ := hpath (List.ne_nil_of_mem hvalue)
    have halone : l.catalog.AdmitsValues g.field [value] :=
      Catalog.AdmitsValues.alone ⟨d, hd, hadmits⟩ hvalue
    exact ⟨g, hg, Catalog.validate_of_admitsValues halone⟩

/-- A property is renamed while its path is followed, and a value cannot be followed twice. -/
theorem path_fits_renamed_grouping :
    let mood : Grouping := { field := "mood", isProperty := true, allowSingletons := true }
    let operations : List LibraryOperation :=
      [.defineProperty "mood" .str true none none, .setGrouping (some mood),
        .setClassifier [.str "calm", .str "loud"], .renameProperty "mood" "tone",
        .classifierPush (.str "calm")]
    let l := afterAll operations
    l.layers.path = [.str "calm", .str "loud"] ∧
      l.catalog.validate "tone" [.str "calm"] = .ok [.str "calm"] := by
  intro mood operations l
  have hpath : l.layers.path = [.str "calm", .str "loud"] := by decide +kernel
  have hgrouping : l.layers.grouping = some { mood with field := "tone" } := by decide +kernel
  have hmem : .str "calm" ∈ l.layers.path := hpath ▸ List.mem_cons_self
  obtain ⟨g, hg, hvalidate⟩ := (path_fits_grouping operations).2.2.1 _ hmem
  cases hgrouping.symm.trans hg
  exact ⟨hpath, hvalidate⟩

end Library

end MediaLibrary
