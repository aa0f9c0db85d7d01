/-
Which operations may disturb the view.

The sources look at the flags of a record and nothing else, and a grouping at a field or at
one property.  So where nothing is searched for, setting the values of a property that the
view is not grouped by leaves the groups as they are.  What is left are values that are set
while a search is active, and imports that are refused.
-/
import MediaLibrary.Proofs.Grouping.Members
import MediaLibrary.Proofs.Library.Memory
import MediaLibrary.Proofs.Store.Plan

namespace MediaLibrary

/-! ### Values that nothing looks at -/

/-- No field shows the values of a property. -/
theorem valueOf_setValues (r : Record) (property : String) (values : List Value) (f : Field) :
    f.valueOf (r.setValues property values) = f.valueOf r := by
  cases f <;> rfl

/-- Values of another property are not noticed by a grouping. -/
theorem unnoticed_setValues {basis : Basis} {property : String} (hother : ¬basis.Reads property)
    (path values : List Value) (which : Record → Bool) (r : Record) :
    Unnoticed basis basis path r (if which r then r.setValues property values else r) := by
  refine ⟨fun b => ?_, ?_, ?_⟩
  · split <;> rfl
  · split
    · cases basis with
      | field f => rw [Basis.keys, Basis.keys, valueOf_setValues]
      | single read default =>
          rw [Basis.keys, Basis.keys, r.values_setValues_of_ne fun hc => hother hc.symm]
      | several read =>
          rw [Basis.keys_several, Basis.keys_several,
            r.values_setValues_of_ne fun hc => hother hc.symm]
    · rfl
  · split
    · cases basis with
      | several read =>
          rw [Basis.holdsPath, Basis.holdsPath,
            r.values_setValues_of_ne fun hc => hother hc.symm]
      | _ => rfl
    · rfl

/-- Sources look at the flags of a record. -/
theorem accepts_sourcesFilter_congr {r r' : Record} (hflags : r'.flags = r.flags)
    (sources : List SourcePath) :
    (sourcesFilter sources).accepts r' = (sourcesFilter sources).accepts r := by
  simp only [accepts_sourcesFilter, SourcePath.accepts_filter, hflags]

namespace Library

variable {l : Library}

/-- The groups depend on the values of the property that the view is grouped by. -/
private theorem Sound.not_reads (h : l.Sound) {grouping : Grouping} {basis : Basis}
    (hgrouping : l.layers.grouping = some grouping)
    (hbasis : grouping.basis l.catalog = .ok basis) {property : String}
    (hother : l.parameters.groupsBy property true = false) : ¬basis.Reads property := by
  have hgrouping : l.parameters.layers.grouping = some grouping := hgrouping
  rw [Parameters.groupsBy, hgrouping] at hother
  rcases Catalog.basis_cases h.named hbasis with ⟨d, hproperty, _, rfl⟩ | ⟨f, rfl⟩
  · have hne : grouping.field ≠ property := by simpa [hproperty] using hother
    split <;> exact hne
  · exact fun hreads => hreads

/-- Where nothing is searched for, values of another property do not change the groups. -/
private theorem freshSummaries_setValues (h : l.Sound) {grouping : Grouping} {basis : Basis}
    (hbasis : grouping.basis l.catalog = .ok basis) {property : String}
    (hother : ¬basis.Reads property) (hsearch : l.layers.search = none) {ids : List RecordId}
    {values : List Value} {count : Nat} {store : Store}
    (hs : l.store.setValues ids property values = .ok (count, store))
    (parameters : Parameters Caches) (hlayers : parameters.layers = l.layers) :
    freshSummaries ⟨store, l.catalog, parameters⟩ grouping = l.freshSummaries grouping := by
  obtain ⟨hsound, which, hplain⟩ := h.store.of_setValues hs
  have hrecords : store.toList = l.store.toList.map fun r =>
      if which r then r.setValues property values else r :=
    (congrArg PlainStore.toList hplain).trans (PlainStore.toList_edit _ _ _)
  obtain ⟨filter, hfilter⟩ := l.exists_filter
  obtain ⟨filter', hfilter'⟩ := exists_filter ⟨store, l.catalog, parameters⟩
  have haccepts : ∀ r, filter.accepts r = (sourcesFilter l.layers.sources).accepts r := by
    rw [Library.filter, hsearch] at hfilter
    exact TermIndex.accepts_viewFilter_none hfilter
  have haccepts' : ∀ r, filter'.accepts r = (sourcesFilter l.layers.sources).accepts r := by
    have hlayers : layers ⟨store, l.catalog, parameters⟩ = l.layers := hlayers
    rw [Library.filter, hlayers, hsearch] at hfilter'
    exact TermIndex.accepts_viewFilter_none hfilter'
  have hselect : store.select filter' = (l.store.select filter).map fun r =>
      if which r then r.setValues property values else r := by
    refine h.store.select_map hsound hrecords fun r _ => ?_
    rw [haccepts, haccepts']
    exact accepts_sourcesFilter_congr (by split <;> rfl) _
  have hlayers : layers ⟨store, l.catalog, parameters⟩ = l.layers := hlayers
  rw [freshSummaries, freshSummaries, freshGroups_eq hfilter, freshGroups_eq hfilter',
    computeGroups, computeGroups, groupsOf, groupsOf, hbasis, hselect, hlayers]
  exact congrArg (fun groups => Except.ok (groups.map Group.summary))
    (groupsOn_map rfl (fun r _ => unnoticed_setValues hother _ values which r) grouping)

open LibraryM

/-- **An operation that disturbs the view** is an import that is refused, or it sets the values
of a property that the view is not grouped by while it is searched. -/
theorem Disturbs.cases (h : l.Sound) {operation : LibraryOperation} (hd : l.Disturbs operation) :
    (∃ records e l', operation = .importRecords records ∧
        importRecords records l = .error e l') ∨
      ∃ ids property raw, operation = .setTag ids property raw ∧
        l.parameters.groupsBy property true = false ∧ l.layers.search ≠ none := by
  obtain ⟨hneglects, grouping, hgrouping, hne⟩ := hd
  unfold NeglectsGroups at hneglects
  split at hneglects
  · rename_i ids property raw
    refine Or.inr ⟨ids, property, raw, rfl, hneglects, fun hsearch => hne ?_⟩
    obtain ⟨basis, hbasis⟩ := h.grouping grouping hgrouping
    have hother := h.not_reads hgrouping hbasis hneglects
    have hleaves : Leaves (LibraryOperation.setTag ids property raw).program l fun l' =>
        l'.freshSummaries grouping = l.freshSummaries grouping := by
      refine leaves_discard.mpr (ensures_setTag rfl fun values count store _ hs => ?_)
      exact freshSummaries_setValues h hbasis hother hsearch hs _
        (Parameters.layers_notifyModified property true)
    exact after_of_leaves hleaves
  · rename_i records
    obtain ⟨e, l', hrun⟩ := hneglects
    exact Or.inl ⟨records, e, l', rfl, hrun⟩
  · cases hneglects

end Library

end MediaLibrary
