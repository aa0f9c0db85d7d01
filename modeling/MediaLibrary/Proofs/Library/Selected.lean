/-
Following the chosen group.

Instead of naming a value to be followed, one can follow the group that is chosen.  This goes
through everything that a view remembers: the groups may be computed now or remembered from
before, the choice may have to be moved into range, and a group may have no value, or the value of
a field.  Only then is it asked whether the view is grouped by a property that may have several
values, so that a view by a field is answered as if its groups had no value.

The value itself is checked as any other, and the check never refuses it.  `RemembersYields` is
the reason: whatever groups are remembered for the view, their values are among those that its
grouping yields along its path, so that they are new to the path and the property may have them.
What is remembered may be out of date with the records, but not with the definitions.
-/
import MediaLibrary.Proofs.Library.Import
import MediaLibrary.Proofs.Library.Shown
import MediaLibrary.Proofs.View.Followed

namespace MediaLibrary

/-! ### What a view is grouped by -/

/-- The grouping is by a property that may have several values. -/
def Grouping.MultiValued (g : Grouping) (c : Catalog) : Prop :=
  g.isProperty = true ∧ ∃ d, c.get? g.field = some d ∧ d.multiple = true

namespace Grouping

variable {c : Catalog} {g : Grouping} {basis : Basis}

theorem multiValued_iff :
    g.MultiValued c ↔ (g.isProperty && (c.get? g.field).any (·.multiple)) = true := by
  simp [MultiValued, Option.any_eq_true]

instance : Decidable (g.MultiValued c) := decidable_of_iff _ multiValued_iff.symm

/-- The three things that records are grouped by. -/
theorem basis_trichotomy (hnamed : OrderedMap.Keyed Definition.name c.definitions)
    (hbasis : g.basis c = .ok basis) :
    (g.MultiValued c ∧ basis = .several g.field) ∨
      (g.isProperty = true ∧ ¬g.MultiValued c ∧ ∃ default, basis = .single g.field default) ∨
        g.isProperty = false ∧ ∃ f, basis = .field f := by
  rcases Catalog.basis_cases hnamed hbasis with ⟨d, hproperty, hget, rfl⟩ | ⟨f, rfl⟩
  · split
    · rename_i hmultiple
      exact .inl ⟨⟨hproperty, d, hget, hmultiple⟩, rfl⟩
    · rename_i hsingle
      refine .inr (.inl ⟨hproperty, ?_, d.default, rfl⟩)
      rintro ⟨_, d', hget', hmultiple⟩
      cases hget.symm.trans hget'
      exact hsingle hmultiple
  · refine .inr (.inr ⟨Bool.eq_false_iff.mpr fun hproperty => ?_, f, rfl⟩)
    -- A property never comes to a field.
    unfold Grouping.basis at hbasis
    rw [if_pos hproperty] at hbasis
    split at hbasis
    · cases hbasis
    · have hbasis := Except.ok.inj hbasis
      split at hbasis <;> cases hbasis

end Grouping

namespace Parameters

variable {κ : Type} {p : Parameters κ} {c : Catalog} {g : Grouping}

/-- Only a property that may have several values has a path. -/
theorem classifiedProperty_eq (hgrouping : p.layers.grouping = some g) (c : Catalog) :
    p.classifiedProperty c =
      if g.MultiValued c then .ok g.field else .error (.notMultiValued g.field) := by
  unfold classifiedProperty
  rw [hgrouping]
  exact if_congr Grouping.multiValued_iff.symm rfl rfl

variable [Invalidate κ] {value : Value}

/-- A value that the property may have is followed if it is new to the path. -/
theorem classifierPush_of_admitsValues (hgrouping : p.layers.grouping = some g)
    (hmultiple : g.MultiValued c) (hadmits : c.AdmitsValues g.field [value])
    (hnew : value ∉ p.layers.path) :
    p.classifierPush value c = .ok (p.withPath (p.layers.path ++ [value])) := by
  have hproperty := classifiedProperty_eq hgrouping c
  rw [if_pos hmultiple] at hproperty
  rw [classifierPush_eq hproperty, extend_of_admitsValues hadmits hnew]
  rfl

theorem classifierPush_of_not_multiValued (hgrouping : p.layers.grouping = some g)
    (hsingle : ¬g.MultiValued c) (value : Value) :
    p.classifierPush value c = .error (.notMultiValued g.field) := by
  have hproperty := classifiedProperty_eq hgrouping c
  rw [if_neg hsingle] at hproperty
  exact classifierPush_of_error hproperty value

/-- A longer path is another one. -/
theorem layers_withPath_concat (value : Value) :
    (p.withPath (p.layers.path ++ [value])).layers =
      { p.layers with path := p.layers.path ++ [value], group := 0 } := by
  have hother : p.layers.path ≠ p.layers.path ++ [value] := by simp
  rw [withPath, if_neg hother]
  rfl

end Parameters

/-! ### The values of groups -/

namespace Basis

variable {basis : Basis} {c : Catalog} {path : List Value}

/-- A group may have this value, or none.  A value of a property with several values is not in the
path, and the property may have it. -/
def Yields (c : Catalog) (path : List Value) (value : Option GroupValue) : Basis → Prop
  | field _ => ∃ v, value = some (.field v)
  | single _ _ => ∃ v, value = some (.property v)
  | several property => ∀ v, value = some v →
      ∃ v', v = .property v' ∧ v' ∉ path ∧ c.AdmitsValues property [v']

/-- It is the definitions that say which values a property may have. -/
theorem Yields.congr {value : Option GroupValue} (h : basis.Yields c path value) {c' : Catalog}
    (hdefinitions : c'.definitions = c.definitions) : basis.Yields c' path value := by
  cases basis with
  | field f => exact h
  | single property default => exact h
  | several property =>
      intro v hv
      obtain ⟨v', hv', hnew, hadmits⟩ := h v hv
      refine ⟨v', hv', hnew, ?_⟩
      unfold Catalog.AdmitsValues Catalog.get? at hadmits ⊢
      rwa [hdefinitions]

theorem yields_of_mem_keys {r : Record} (hr : c.Admits r) {key : Option GroupValue}
    (hkey : key ∈ basis.keys path r) : basis.Yields c path key := by
  cases basis with
  | field f => exact ⟨_, List.mem_singleton.mp hkey⟩
  | single property default => exact ⟨_, List.mem_singleton.mp hkey⟩
  | several property =>
      rintro v rfl
      rcases keys_several_cases hkey with hnone | ⟨value, hvalue⟩
      · cases hnone
      · cases hvalue
        obtain ⟨_, hheld, hnew⟩ := value_mem_keys_several.mp hkey
        exact ⟨value, rfl, hnew, (hr.admitsValues (List.ne_nil_of_mem hheld)).alone hheld⟩

/-- **Groups have values that the grouping yields**, if the catalog admits their records. -/
theorem yields_of_mem_groupsOn {g : Grouping} {records : List Record}
    (hrecords : ∀ r ∈ records, c.Admits r) {group : Group}
    (hgroup : group ∈ groupsOn basis g path records) : basis.Yields c path group.value := by
  rw [groupsOn_eq] at hgroup
  rcases List.mem_append.mp hgroup with hpath | harranged
  · obtain ⟨hhas, rfl⟩ := mem_pathGroup.mp hpath
    -- The group of the path has no value, and only several values have a path.
    cases basis with
    | field f => cases hhas
    | single property default => cases hhas
    | several property => exact fun v hv => nomatch hv
  · obtain ⟨key, ⟨r, hr, hkey⟩, rfl⟩ :=
      mem_plainGroups.mp (Grouping.mem_arrange_iff.mp harranged).1
    exact yields_of_mem_keys (hrecords r hr) hkey

end Basis

namespace Library

variable {l l' : Library} {grouping : Grouping} {basis : Basis} {filter : Filter}
  {fresh : List Group}

theorem Sound.yields_of_mem_fresh (h : l.Sound) (hgrouped : l.Grouped grouping basis filter fresh)
    {group : Group} (hgroup : group ∈ fresh) :
    basis.Yields l.catalog l.layers.path group.value := by
  rw [← hgrouped.computed] at hgroup
  refine Basis.yields_of_mem_groupsOn (fun r hr => ?_) hgroup
  exact h.admitted r.id r (h.store.mem_toList.mp (h.store.mem_select.mp hr).1)

/-! ### Groups that are remembered -/

/-- The groups that are remembered for the view have values that its grouping yields. -/
def RemembersYields (l : Library) : Prop :=
  l.Remembers fun grouping groups => ∀ basis, grouping.basis l.catalog = .ok basis →
    ∀ group ∈ groups, basis.Yields l.catalog l.layers.path group.value

/-- The records do not matter to what is remembered. -/
theorem RemembersYields.of_same (h : l.RemembersYields)
    (hdefinitions : l'.catalog.definitions = l.catalog.definitions) (hmemo : l'.memo = l.memo)
    (hlayers : Parameters.SameBasis l.layers l'.layers) : l'.RemembersYields := by
  refine h.of_kept hmemo hlayers fun grouping groups _ hyields basis hbasis group hgroup => ?_
  have hbasis' : grouping.basis l.catalog = .ok basis := by
    unfold Grouping.basis Catalog.require Catalog.get? at hbasis ⊢
    rwa [← hdefinitions]
  rw [hlayers.path]
  exact (hyields basis hbasis' group hgroup).congr hdefinitions

theorem RemembersYields.of_follows (h : l.RemembersYields) {parameters : Parameters Caches}
    (hfollows : l.parameters.Follows parameters) :
    RemembersYields { l with parameters } := by
  cases hfollows with
  | kept layers hlayers => exact h.of_same rfl rfl hlayers
  | dropped layers => exact remembers_of_forgotten (Caches.forgotten_invalidate _).groups

/-- Groups that are computed are remembered with the values that they have. -/
theorem RemembersYields.of_seen (h : l.RemembersYields) (hs : l.Sound) (hseen : l.Seen l') :
    l'.RemembersYields := by
  cases hseen with
  | found group => exact h.of_same rfl rfl ⟨rfl, rfl, rfl, rfl⟩
  | made group grouping groups hgrouping hgroups =>
      obtain ⟨basis, filter, fresh, hgrouped⟩ := hs.exists_grouped hgrouping
      cases hgrouped.freshGroups_eq.symm.trans hgroups
      refine remembers_of_made hgrouping (fun basis' hbasis group hgroup => ?_) group
      cases hgrouped.based.symm.trans hbasis
      exact hs.yields_of_mem_fresh hgrouped hgroup

open LibraryM

/-- **No operation leaves groups whose values the grouping does not yield**, be it carried out or
refused. -/
theorem RemembersYields.after (h : l.RemembersYields) (hs : l.Sound)
    (operation : LibraryOperation) : (l.after operation).RemembersYields := by
  have hbecomes := becomes_after hs operation
  generalize l.after operation = l' at hbecomes
  cases hbecomes with
  | dropped hforgotten => exact remembers_of_forgotten hforgotten.groups
  | layered hfollows => exact h.of_follows hfollows
  | seen hseen => exact h.of_seen hs hseen
  | followed path hseen =>
      exact (h.of_seen hs hseen).of_follows (Parameters.follows_withPath path)
  | described all => exact h.of_same rfl rfl (.refl _)
  | asked => exact h.of_same rfl rfl (.refl _)
  | tagged property hset =>
      -- Values may have been set that make other groups, but the old ones do no harm.
      have hnotified := h.of_follows (Parameters.follows_notifyModified property true)
      exact hnotified.of_same rfl rfl (.refl _)
  | stopped hrefused =>
      rcases hs.leaves_of_refused hrefused with ⟨_, rfl⟩ | ⟨_, store, _, rfl, _⟩
      · exact h
      · exact h.of_same rfl rfl (.refl _)

theorem remembersYields_afterAll (operations : List LibraryOperation) :
    (afterAll operations).RemembersYields :=
  afterAll_induction_of_sound (remembers_of_forgotten rfl)
    (fun _ operation hs h => h.after hs operation) operations

/-- The groups that a view shows have values that its grouping yields. -/
theorem RemembersYields.of_mem_shownGroups (h : l.RemembersYields) (hs : l.Sound)
    (hgrouped : l.Grouped grouping basis filter fresh) {group : Group}
    (hgroup : group ∈ l.shownGroups grouping fresh) :
    basis.Yields l.catalog l.layers.path group.value := by
  unfold shownGroups at hgroup
  cases hfound : l.memo.find? (l.groupingKey grouping) with
  | none =>
      rw [hfound] at hgroup
      exact hs.yields_of_mem_fresh hgrouped hgroup
  | some groups =>
      rw [hfound] at hgroup
      exact h grouping groups hgrouped.active hfound basis hgrouped.based group hgroup

/-! ### The group that is chosen -/

/-- The groups in force: those that are remembered for the view, and those that are computed if
none are. -/
def groupsInForce (l : Library) : List Group :=
  l.layers.grouping.elim [] fun grouping =>
    l.shownGroups grouping ((l.freshGroups grouping).toOption.getD [])

/-- The value of the group in force that is chosen, where it has one. -/
def chosenValue? (l : Library) : Option GroupValue :=
  l.groupsInForce[(l.parameters.clampGroup l.groupsInForce.length).layers.group.toNat]?.bind
    (·.value)

theorem Grouped.groupsInForce_eq (h : l.Grouped grouping basis filter fresh) :
    l.groupsInForce = l.shownGroups grouping fresh := by
  rw [groupsInForce, h.active, Option.elim_some, h.freshGroups_eq]
  rfl

theorem RemembersYields.of_chosenValue? (h : l.RemembersYields) (hs : l.Sound)
    (hgrouped : l.Grouped grouping basis filter fresh) (hgroups : l.groupsInForce ≠ []) :
    basis.Yields l.catalog l.layers.path l.chosenValue? := by
  unfold chosenValue?
  have hlt := l.parameters.clampGroup_lt (List.length_pos_iff.mpr hgroups)
  rw [List.getElem?_eq_getElem hlt, Option.bind_some]
  refine h.of_mem_shownGroups hs hgrouped ?_
  rw [← hgrouped.groupsInForce_eq]
  exact List.getElem_mem hlt

theorem chosenValue?_of_nil (hgroups : l.groupsInForce = []) : l.chosenValue? = none := by
  rw [chosenValue?, hgroups]
  rfl

/-! ### Following it -/

/-- What is done with the value of the chosen group. -/
def followValue : Option GroupValue → LibraryM Bool
  | some (.property value) => do
    classifierPush value
    return true
  | _ => return false

theorem followValue_of_ok {value : Value} {parameters : Parameters Caches}
    (h : l.parameters.classifierPush value l.catalog = .ok parameters) :
    followValue (some (.property value)) l = .ok true { l with parameters } := by
  have hpush : LibraryM.classifierPush value l = .ok () { l with parameters } := by
    unfold LibraryM.classifierPush
    rw [get_bind, h]
    rfl
  exact bind_of_ok hpush

theorem followValue_of_error {value : Value} {e : ParametersError}
    (h : l.parameters.classifierPush value l.catalog = .error e) :
    followValue (some (.property value)) l = .error (.parameters e) l := by
  have hpush : LibraryM.classifierPush value l = .error (.parameters e) l := by
    unfold LibraryM.classifierPush
    rw [get_bind, h]
    rfl
  exact bind_of_error hpush

/-- The groups are looked at before the value of the chosen one is followed. -/
theorem Grouped.classifierSelectGroup_eq (h : l.Grouped grouping basis filter fresh) :
    ∃ l', l.Looked grouping l.groupsInForce l' ∧
      classifierSelectGroup l = followValue l.chosenValue? l' := by
  have hcomputed : l.computeGroups grouping filter = .ok fresh :=
    (Library.freshGroups_eq h.filtered grouping).symm.trans h.freshGroups_eq
  have hfilter : check .query l.filter l = .ok filter l := by
    rw [h.filtered]
    rfl
  obtain ⟨groups, _, hrun, hgroups, memo, rfl, hremembered⟩ :=
    (ensures_shownGroups hcomputed).exists_ok
  rw [← h.groupsInForce_eq] at hgroups
  subst hgroups
  refine ⟨{ l.withMemo memo with
    parameters := (l.withMemo memo).parameters.clampGroup l.groupsInForce.length },
    ⟨rfl, rfl, rfl, hremembered⟩, ?_⟩
  unfold classifierSelectGroup
  rw [get_bind, h.active]
  dsimp only
  rw [get_bind, bind_of_ok hfilter, bind_of_ok hrun]
  rfl

theorem classifierSelectGroup_of_ungrouped (hgrouping : l.layers.grouping = none) :
    classifierSelectGroup l = .error (.parameters .noGrouping) l := by
  unfold classifierSelectGroup
  rw [get_bind, hgrouping]
  rfl

/-- How following the chosen group ends. -/
inductive Selects (l : Library) : EStateM.Result LibraryError Library Bool → Prop
  | ungrouped (hgrouping : l.layers.grouping = none) :
      Selects l (.error (.parameters .noGrouping) l)
  | followed {g : Grouping} {l' : Library} {value : Value}
      (hgrouping : l.layers.grouping = some g) (hmultiple : g.MultiValued l.catalog)
      (hvalue : l.chosenValue? = some (.property value)) (hlooked : l.Looked g l.groupsInForce l') :
      Selects l
        (.ok true { l' with parameters := l'.parameters.withPath (l.layers.path ++ [value]) })
  /-- A property with a single value has groups, but no path. -/
  | refused {g : Grouping} {l' : Library} (hgrouping : l.layers.grouping = some g)
      (hproperty : g.isProperty = true) (hsingle : ¬g.MultiValued l.catalog)
      (hgroups : l.groupsInForce ≠ []) (hlooked : l.Looked g l.groupsInForce l') :
      Selects l (.error (.parameters (.notMultiValued g.field)) l')
  /-- The chosen group has no value, or that of a field. -/
  | passed {g : Grouping} {l' : Library} (hgrouping : l.layers.grouping = some g)
      (hvalue : g.MultiValued l.catalog → l.chosenValue? = none)
      (hsingle : g.isProperty = true → ¬g.MultiValued l.catalog → l.groupsInForce = [])
      (hlooked : l.Looked g l.groupsInForce l') : Selects l (.ok false l')

/-- **Following the chosen group** is refused without a grouping and by a property with a single
value, never for the value. -/
theorem Sound.selects (h : l.Sound) (hyields : l.RemembersYields) :
    l.Selects (classifierSelectGroup l) := by
  cases hgrouping : l.layers.grouping with
  | none =>
      rw [classifierSelectGroup_of_ungrouped hgrouping]
      exact .ungrouped hgrouping
  | some g =>
      obtain ⟨basis, filter, fresh, hgrouped⟩ := h.exists_grouped hgrouping
      obtain ⟨l', hlooked, hrun⟩ := hgrouped.classifierSelectGroup_eq
      rw [hrun]
      have hgrouping' : l'.parameters.layers.grouping = some g := hlooked.grouping_eq.trans hgrouping
      have hpath : l'.parameters.layers.path = l.layers.path := hlooked.path_eq
      by_cases hgroups : l.groupsInForce = []
      · -- Without groups there is no value, whatever the view is grouped by.
        have hnone := chosenValue?_of_nil hgroups
        rw [hnone]
        exact .passed hgrouping (fun _ => hnone) (fun _ _ => hgroups) hlooked
      have hvalue := hyields.of_chosenValue? h hgrouped hgroups
      rcases Grouping.basis_trichotomy h.named hgrouped.based with
        ⟨hmultiple, rfl⟩ | ⟨hproperty, hsingle, default, rfl⟩ | ⟨hfield, f, rfl⟩
      · cases hchosen : l.chosenValue? with
        | none =>
            exact .passed hgrouping (fun _ => hchosen) (fun _ hsingle => absurd hmultiple hsingle)
              hlooked
        | some v =>
            obtain ⟨value, rfl, hnew, hadmits⟩ := hvalue v hchosen
            rw [← hpath] at hnew
            have hpush := Parameters.classifierPush_of_admitsValues hgrouping'
              (hlooked.catalog ▸ hmultiple) (hlooked.catalog ▸ hadmits) hnew
            rw [followValue_of_ok hpush, hpath]
            exact .followed hgrouping hmultiple hchosen hlooked
      · obtain ⟨value, hchosen⟩ := hvalue
        rw [hchosen]
        have hpush := Parameters.classifierPush_of_not_multiValued hgrouping'
          (hlooked.catalog ▸ hsingle) value
        rw [followValue_of_error hpush]
        exact .refused hgrouping hproperty hsingle hgroups hlooked
      · obtain ⟨value, hchosen⟩ := hvalue
        rw [hchosen]
        refine .passed hgrouping (fun hmultiple => ?_) (fun hproperty => ?_) hlooked
        · cases hfield.symm.trans hmultiple.1
        · cases hfield.symm.trans hproperty

namespace Selects

variable {result : EStateM.Result LibraryError Library Bool}

theorem refused_iff (h : l.Selects result) (e : LibraryError) :
    (∃ l', result = .error e l') ↔
      (l.layers.grouping = none ∧ e = .parameters .noGrouping) ∨
        ∃ g, l.layers.grouping = some g ∧ g.isProperty = true ∧ ¬g.MultiValued l.catalog ∧
          l.groupsInForce ≠ [] ∧ e = .parameters (.notMultiValued g.field) := by
  constructor
  · rintro ⟨l', rfl⟩
    cases h with
    | ungrouped hgrouping => exact .inl ⟨hgrouping, rfl⟩
    | refused hgrouping hproperty hsingle hgroups hlooked =>
        exact .inr ⟨_, hgrouping, hproperty, hsingle, hgroups, rfl⟩
  · rintro (⟨hnone, rfl⟩ | ⟨g, hg, hproperty', hsingle', hgroups', rfl⟩)
    · cases h with
      | ungrouped hgrouping => exact ⟨l, rfl⟩
      | followed hgrouping => cases hnone.symm.trans hgrouping
      | refused hgrouping => cases hnone.symm.trans hgrouping
      | passed hgrouping => cases hnone.symm.trans hgrouping
    · cases h with
      | ungrouped hgrouping => cases hgrouping.symm.trans hg
      | followed hgrouping hmultiple =>
          cases hgrouping.symm.trans hg
          exact absurd hmultiple hsingle'
      | refused hgrouping =>
          cases hgrouping.symm.trans hg
          exact ⟨_, rfl⟩
      | passed hgrouping hvalue hsingle =>
          cases hgrouping.symm.trans hg
          exact absurd (hsingle hproperty' hsingle') hgroups'

theorem followed_iff (h : l.Selects result) :
    (∃ l', result = .ok true l') ↔
      ∃ g, l.layers.grouping = some g ∧ g.MultiValued l.catalog ∧ l.chosenValue? ≠ none := by
  constructor
  · rintro ⟨l', rfl⟩
    cases h with
    | followed hgrouping hmultiple hvalue =>
        exact ⟨_, hgrouping, hmultiple, by simp [hvalue]⟩
  · rintro ⟨g, hg, hmultiple', hvalue'⟩
    cases h with
    | ungrouped hgrouping => cases hgrouping.symm.trans hg
    | followed hgrouping => exact ⟨_, rfl⟩
    | refused hgrouping hproperty hsingle =>
        cases hgrouping.symm.trans hg
        exact absurd hmultiple' hsingle
    | passed hgrouping hvalue =>
        cases hgrouping.symm.trans hg
        exact absurd (hvalue hmultiple') hvalue'

/-- A value that is followed comes to the end of the path. -/
theorem of_followed (h : l.Selects (.ok true l')) :
    l'.store = l.store ∧ l'.catalog = l.catalog ∧
      ∃ value, l.chosenValue? = some (.property value) ∧
        l'.layers = { l.layers with path := l.layers.path ++ [value], group := 0 } := by
  cases h with
  | @followed g looked value hgrouping hmultiple hvalue hlooked =>
      refine ⟨hlooked.store, hlooked.catalog, value, hvalue, ?_⟩
      have hlayers : looked.parameters.layers = _ := hlooked.layers
      have hpath : looked.parameters.layers.path = l.layers.path := hlooked.path_eq
      rw [← hpath, layers, Parameters.layers_withPath_concat, hlayers]
      rfl

/-- Where no value is followed, at most another group is chosen. -/
theorem of_not_followed (h : l.Selects result)
    (hresult : result = .ok false l' ∨ ∃ e, result = .error e l') :
    l'.store = l.store ∧ l'.catalog = l.catalog ∧
      (l'.layers = (l.parameters.clampGroup l.groupsInForce.length).layers ∨
        l.layers.grouping = none ∧ l' = l) := by
  rcases hresult with rfl | ⟨e, rfl⟩
  · cases h with
    | passed hgrouping hvalue hsingle hlooked =>
        exact ⟨hlooked.store, hlooked.catalog, .inl hlooked.layers⟩
  · cases h with
    | ungrouped hgrouping => exact ⟨rfl, rfl, .inr ⟨hgrouping, rfl⟩⟩
    | refused hgrouping hproperty hsingle hgroups hlooked =>
        exact ⟨hlooked.store, hlooked.catalog, .inl hlooked.layers⟩

end Selects

/-- **The chosen group is followed if it has a value of a property with several.**  After any run,
refused operations included, the groups in force are those that every view tells of, and the one
that is chosen is the one that every view shows.  Following it is refused if and only if the view
is not grouped, or grouped by a property with a single value that makes groups.  Its value is
followed if and only if it has one and the property may have several; then the value comes to the
end of the path, and the first group is chosen.  Otherwise nothing is done but that the choice may
be moved into range, whether the operation is refused or not. -/
theorem chosen_group_is_followed (operations : List LibraryOperation) :
    let l := afterAll operations
    let groups := l.groupsInForce
    let clamped := (l.parameters.clampGroup groups.length).layers
    (∀ g, l.layers.grouping = some g → ∀ request, ∃ result, l.shows? request = some result ∧
        result.groups = some (groups.map Group.summary) ∧ result.layers.group = clamped.group) ∧
      (∀ e, (∃ l', classifierSelectGroup l = .error e l') ↔
        (l.layers.grouping = none ∧ e = .parameters .noGrouping) ∨
          ∃ g, l.layers.grouping = some g ∧ g.isProperty = true ∧ ¬g.MultiValued l.catalog ∧
            groups ≠ [] ∧ e = .parameters (.notMultiValued g.field)) ∧
      ((∃ l', classifierSelectGroup l = .ok true l') ↔
        ∃ g, l.layers.grouping = some g ∧ g.MultiValued l.catalog ∧ l.chosenValue? ≠ none) ∧
      (∀ l', classifierSelectGroup l = .ok true l' → l'.store = l.store ∧ l'.catalog = l.catalog ∧
        ∃ value, l.chosenValue? = some (.property value) ∧
          l'.layers = { l.layers with path := l.layers.path ++ [value], group := 0 }) ∧
      ∀ l', classifierSelectGroup l = .ok false l' ∨ (∃ e, classifierSelectGroup l = .error e l') →
        l'.store = l.store ∧ l'.catalog = l.catalog ∧
          (l'.layers = clamped ∨ l.layers.grouping = none ∧ l' = l) := by
  intro l groups clamped
  have h : l.Sound := sound_afterAll operations
  have hselects := h.selects (remembersYields_afterAll operations)
  refine ⟨fun g hgrouping request => ?_, hselects.refused_iff, hselects.followed_iff,
    fun l' hrun => ?_, fun l' => hselects.of_not_followed⟩
  · obtain ⟨basis, filter, fresh, hgrouped⟩ := h.exists_grouped hgrouping
    refine ⟨_, (hgrouped.looked request).1, ?_⟩
    rw [← hgrouped.groupsInForce_eq]
    exact ⟨rfl, rfl⟩
  · rw [hrun] at hselects
    exact hselects.of_followed

/-- The only group of a view by container has a value, which is neither followed nor refused. -/
theorem container_is_not_followed :
    let container : Grouping :=
      { field := "container_format", isProperty := false, allowSingletons := true }
    let operations : List LibraryOperation :=
      [.importRecords [{ path := "/a/one.mkv", containerFormat := "mkv" }],
        .setGrouping (some container)]
    let l := afterAll operations
    l.chosenValue?.map GroupValue.display = some "mkv" ∧
      (∃ l', classifierSelectGroup l = .ok false l') ∧
      ¬((∃ e l', classifierSelectGroup l = .error (.parameters e) l') ↔
        l.layers.grouping = none ∨
          ∃ g, l.layers.grouping = some g ∧ ¬g.MultiValued l.catalog) := by
  intro container operations l
  have hvalue : l.chosenValue?.map GroupValue.display = some "mkv" := by decide +kernel
  have hgrouping : l.layers.grouping = some container := by decide +kernel
  have htold : (Checked.answer? (classifierSelectGroup l)).map (·.1) = some false := by
    decide +kernel
  obtain ⟨⟨_, l'⟩, hanswer, rfl⟩ := Option.map_eq_some_iff.mp htold
  have hrun := Checked.eq_ok_of_answer? hanswer
  refine ⟨hvalue, ⟨l', hrun⟩, fun hrefused_iff => ?_⟩
  have hsingle : ¬container.MultiValued l.catalog := fun hmultiple => nomatch hmultiple.1
  obtain ⟨e, _, hrefused⟩ := hrefused_iff.mpr (.inr ⟨container, hgrouping, hsingle⟩)
  cases hrun.symm.trans hrefused

end Library

end MediaLibrary
