/-
Who is told of other layers.

Listeners keep what they have computed for a view, and have to be told when the sources, the
search, the grouping or the path are others.  Each operation on the layers decides for itself
whether they are: some compare the layer with the one that is there, some know that a path has
grown or been cut short, and a search that is blank is none.  A listener that is told too
seldom answers for other layers, and one that is told too often computes for nothing.

So it is shown that each listener is told once of every change and never of anything else, and
that other layers show their first group.  Listeners may be anything that can be told, such as
counters; that each of them is told `n` times is said by `invalidate^[n]`.
-/
import Mathlib.Logic.Function.Iterate
import MediaLibrary.Proofs.View.Path
import MediaLibrary.Proofs.View.Parameters

namespace MediaLibrary

/-- What can be asked of the layers of a view. -/
inductive ParametersOperation where
  | setSources (sources : List SourcePath)
  | setSearch (search : Option Search)
  | setGrouping (grouping : Option Grouping)
  | classifierPush (value : Value) (catalog : Catalog)
  | setClassifier (path : List Value) (catalog : Catalog)
  | classifierPop
  | classifierReset
  | reset (layer : Layer)
  | setGroup (group : UInt64)
  | clampGroup (groupCount : Nat)
  | setSort (sort : List SortKey)
  | renameGroupingProperty (old new : String)
  | notifyModified (name : String) (isProperty : Bool)
  | forceUpdate

namespace ParametersOperation

/-- The operation sets a layer, or puts one back to what it is by default. -/
def setsLayer : ParametersOperation → Bool
  | setSources _ | setSearch _ | setGrouping _ | classifierPush _ _ | setClassifier _ _
  | classifierPop | classifierReset | reset _ => true
  | _ => false

/-- The operation chooses a group or an order. -/
def arranges : ParametersOperation → Bool
  | setGroup _ | clampGroup _ | setSort _ => true
  | _ => false

end ParametersOperation

namespace Parameters

variable {κ : Type} [Invalidate κ] {p p' : Parameters κ}

/-- Carries out an operation, its answer aside, unless it is refused. -/
def perform (p : Parameters κ) : ParametersOperation → Except ParametersError (Parameters κ)
  | .setSources sources => .ok (p.setSources sources)
  | .setSearch search => .ok (p.setSearch search)
  | .setGrouping grouping => .ok (p.setGrouping grouping)
  | .classifierPush value catalog => p.classifierPush value catalog
  | .setClassifier path catalog => p.setClassifier path catalog
  | .classifierPop => .ok p.classifierPop.2
  | .classifierReset => .ok p.classifierReset
  | .reset layer => .ok (p.reset layer)
  | .setGroup group => .ok (p.setGroup group)
  | .clampGroup groupCount => .ok (p.clampGroup groupCount)
  | .setSort sort => .ok (p.setSort sort)
  | .renameGroupingProperty old new => .ok (p.renameGroupingProperty old new)
  | .notifyModified name isProperty => .ok (p.notifyModified name isProperty).2
  | .forceUpdate => .ok p.forceUpdate

/-- The layers and the listeners after an operation, be it carried out or refused. -/
def after (p : Parameters κ) (operation : ParametersOperation) : Parameters κ :=
  match p.perform operation with
  | .ok p => p
  | .error _ => p

/-- The layers and the listeners after some operations. -/
def afterAll (p : Parameters κ) (operations : List ParametersOperation) : Parameters κ :=
  operations.foldl after p

instance (layers layers' : Layers) : Decidable (SameBasis layers layers') :=
  decidable_of_iff (layers'.sources = layers.sources ∧ layers'.search = layers.search ∧
      layers'.grouping = layers.grouping ∧ layers'.path = layers.path)
    ⟨fun ⟨hsources, hsearch, hgrouping, hpath⟩ => ⟨hsources, hsearch, hgrouping, hpath⟩,
      fun ⟨hsources, hsearch, hgrouping, hpath⟩ => ⟨hsources, hsearch, hgrouping, hpath⟩⟩

/-- The listeners are told of the operation. -/
def tells (p : Parameters κ) : ParametersOperation → Bool
  | .renameGroupingProperty old _ => p.groupsBy old true
  | .notifyModified name isProperty => p.groupsBy name isProperty
  | .forceUpdate => true
  | operation => !decide (SameBasis p.layers (p.after operation).layers)

/-- How many of some operations the listeners are told of. -/
def timesTold (p : Parameters κ) : List ParametersOperation → Nat
  | [] => 0
  | operation :: rest => (p.tells operation).toNat + (p.after operation).timesTold rest

/-! ### One operation -/

theorem after_of_ok {operation : ParametersOperation} (h : p.perform operation = .ok p') :
    p.after operation = p' := by
  rw [after, h]

theorem after_of_error {operation : ParametersOperation} {e : ParametersError}
    (h : p.perform operation = .error e) : p.after operation = p := by
  rw [after, h]

/-- What is refused is not done, and what is not refused sets a path. -/
private theorem restarts_of_perform {operation : ParametersOperation}
    (h : ∀ p', p.perform operation = .ok p' → ∃ path, p' = p.withPath path) :
    p.Restarts (p.after operation) := by
  cases hperform : p.perform operation with
  | error e =>
      rw [after_of_error hperform]
      exact .same
  | ok p' =>
      obtain ⟨path, rfl⟩ := h p' hperform
      rw [after_of_ok hperform]
      exact restarts_withPath path

/-- **Setting a layer starts the view again if anything is different, and does nothing
otherwise.**  Only the group and the order may be put back without that. -/
theorem cases_of_setsLayer {operation : ParametersOperation} (hsets : operation.setsLayer = true) :
    p.Restarts (p.after operation) ∨
      (operation = .reset .group ∧ p.after operation = p.setGroup 0) ∨
      (operation = .reset .sort ∧ p.after operation = p.setSort Layers.defaultSort) := by
  cases operation with
  | setSources sources => exact .inl (restarts_setSources sources)
  | setSearch search => exact .inl (restarts_setSearch search)
  | setGrouping grouping => exact .inl (restarts_setGrouping grouping)
  | classifierPush value catalog =>
      refine .inl (restarts_of_perform fun p' hpush => ?_)
      obtain ⟨path, _, hpath⟩ := mayFollow_of_classifierPush_ok hpush
      exact ⟨path, hpath⟩
  | setClassifier path catalog =>
      refine .inl (restarts_of_perform fun p' hset => ?_)
      obtain ⟨path, _, hpath⟩ := mayFollow_of_setClassifier_ok hset
      exact ⟨path, hpath⟩
  | classifierPop => exact .inl (restarts_withPath _)
  | classifierReset => exact .inl (restarts_withPath [])
  | reset layer =>
      cases layer with
      | sources => exact .inl (restarts_setSources _)
      | grouping => exact .inl (restarts_setGrouping none)
      | classifier => exact .inl (restarts_withPath [])
      | group => exact .inr (.inl ⟨rfl, rfl⟩)
      | search => exact .inl (restarts_setSearch none)
      | sort => exact .inr (.inr ⟨rfl, rfl⟩)
  | _ => cases hsets

/-- Other layers show their first group, and the listeners are told of them. -/
theorem Restarts.of_not_sameBasis (h : p.Restarts p') (hother : ¬SameBasis p.layers p'.layers) :
    p'.caches = invalidate p.caches ∧ p'.layers.group = 0 := by
  cases h with
  | same => exact absurd (.refl _) hother
  | restarted layers _ hfirst => exact ⟨rfl, hfirst⟩

/-- Where the layers are the same that results depend on, nothing was done. -/
theorem Restarts.of_sameBasis (h : p.Restarts p') (hsame : SameBasis p.layers p'.layers) :
    p' = p := by
  cases h with
  | same => rfl
  | restarted layers hother _ => exact absurd hsame hother

/-- A layer that results depend on was set to another one. -/
private theorem told_of_setsLayer {operation : ParametersOperation}
    (hsets : operation.setsLayer = true) (hother : ¬SameBasis p.layers (p.after operation).layers) :
    (p.after operation).caches = invalidate p.caches ∧ (p.after operation).layers.group = 0 := by
  rcases cases_of_setsLayer (p := p) hsets with h | ⟨_, h⟩ | ⟨_, h⟩
  · exact h.of_not_sameBasis hother
  · exact absurd ⟨by rw [h]; rfl, by rw [h]; rfl, by rw [h]; rfl, by rw [h]; rfl⟩ hother
  · exact absurd ⟨by rw [h]; rfl, by rw [h]; rfl, by rw [h]; rfl, by rw [h]; rfl⟩ hother

/-- No layer that results depend on was set to another one. -/
private theorem kept_of_setsLayer {operation : ParametersOperation}
    (hsets : operation.setsLayer = true) (hsame : SameBasis p.layers (p.after operation).layers) :
    (p.after operation).caches = p.caches ∧
      (operation ≠ .reset .group → (p.after operation).layers.group = p.layers.group) ∧
      (operation ≠ .reset .sort → (p.after operation).layers.sort = p.layers.sort) := by
  rcases cases_of_setsLayer (p := p) hsets with h | ⟨hgroup, h⟩ | ⟨hsort, h⟩
  · rw [h.of_sameBasis hsame]
    exact ⟨rfl, fun _ => rfl, fun _ => rfl⟩
  · rw [h]
    exact ⟨rfl, fun hother => absurd hgroup hother, fun _ => rfl⟩
  · rw [h]
    exact ⟨rfl, fun _ => rfl, fun hother => absurd hsort hother⟩

/-- Choosing a group or an order changes nothing that results depend on. -/
private theorem arranged_after {operation : ParametersOperation}
    (harranges : operation.arranges = true) :
    SameBasis p.layers (p.after operation).layers ∧ (p.after operation).caches = p.caches := by
  cases operation with
  | setGroup group => exact ⟨⟨rfl, rfl, rfl, rfl⟩, rfl⟩
  | clampGroup groupCount => exact ⟨⟨rfl, rfl, rfl, rfl⟩, rfl⟩
  | setSort sort => exact ⟨⟨rfl, rfl, rfl, rfl⟩, rfl⟩
  | _ => cases harranges

theorem caches_notifyModified (name : String) (isProperty : Bool) :
    (p.notifyModified name isProperty).2.caches =
      if p.groupsBy name isProperty then invalidate p.caches else p.caches := by
  unfold notifyModified
  split <;> rfl

/-! ### Renamed properties -/

theorem caches_renameGroupingProperty (old new : String) :
    (p.renameGroupingProperty old new).caches =
      if p.groupsBy old true then invalidate p.caches else p.caches := by
  split
  · rename_i hgrouped
    obtain ⟨g, hg, hproperty, hfield⟩ := groupsBy_property.mp hgrouped
    rw [renameGroupingProperty, hg]
    simp [hproperty, hfield, forceUpdate]
  · rename_i hother
    rw [renameGroupingProperty_of_not_groupsBy hother]

omit [Invalidate κ] in
/-- Under another name the grouping is another one. -/
private theorem renamed_ne_iff {old new : String} (hne : old ≠ new) :
    p.layers.grouping.map (·.renamed old new) ≠ p.layers.grouping ↔ p.groupsBy old true = true := by
  rw [groupsBy_property]
  cases p.layers.grouping with
  | none => simp
  | some g =>
      rw [Option.map_some, Grouping.renamed]
      split
      · rename_i hrenamed
        obtain ⟨hproperty, hfield⟩ : g.isProperty = true ∧ g.field = old := by simpa using hrenamed
        refine iff_of_true (fun hsame => hne ?_) ⟨g, rfl, hproperty, hfield⟩
        have hnew : new = g.field := congrArg Grouping.field (Option.some.inj hsame)
        rw [hnew, hfield]
      · rename_i hother
        refine iff_of_false (fun hother => hother rfl) ?_
        rintro ⟨_, ⟨⟩, hproperty, hfield⟩
        exact hother (by simp [hproperty, hfield])

/-- The grouping is followed to another name exactly if the listeners are told. -/
theorem grouping_renameGroupingProperty_ne_iff {old new : String} (hne : old ≠ new) :
    (p.renameGroupingProperty old new).layers.grouping ≠ p.layers.grouping ↔
      p.groupsBy old true = true := by
  rw [layers_renameGroupingProperty]
  exact renamed_ne_iff hne

/-! ### Runs -/

/-- **The listeners are told once of an operation or not at all.** -/
theorem caches_after (p : Parameters κ) (operation : ParametersOperation) :
    (p.after operation).caches = if p.tells operation then invalidate p.caches else p.caches := by
  have hlayer : operation.setsLayer = true ∨ operation.arranges = true →
      p.tells operation = !decide (SameBasis p.layers (p.after operation).layers) →
      (p.after operation).caches = if p.tells operation then invalidate p.caches else p.caches := by
    rintro (hsets | harranges) htells
    · rw [htells]
      by_cases hsame : SameBasis p.layers (p.after operation).layers
      · simp [hsame, (kept_of_setsLayer hsets hsame).1]
      · simp [hsame, (told_of_setsLayer hsets hsame).1]
    · obtain ⟨hsame, hkept⟩ := arranged_after (p := p) harranges
      simp [htells, hsame, hkept]
  cases operation with
  | renameGroupingProperty old new => exact caches_renameGroupingProperty old new
  | notifyModified name isProperty => exact caches_notifyModified name isProperty
  | forceUpdate => rfl
  | setGroup group => exact hlayer (.inr rfl) rfl
  | clampGroup groupCount => exact hlayer (.inr rfl) rfl
  | setSort sort => exact hlayer (.inr rfl) rfl
  | _ => exact hlayer (.inl rfl) rfl

theorem caches_afterAll (operations : List ParametersOperation) :
    ∀ p : Parameters κ,
      (p.afterAll operations).caches = invalidate^[p.timesTold operations] p.caches := by
  induction operations with
  | nil => exact fun p => rfl
  | cons operation rest ih =>
      intro p
      have hrest : (p.afterAll (operation :: rest)).caches =
          invalidate^[(p.after operation).timesTold rest] (p.after operation).caches := ih _
      rw [hrest, caches_after, timesTold]
      cases p.tells operation with
      | false => rw [Bool.toNat_false, Nat.zero_add, if_neg Bool.false_ne_true]
      | true => rw [Bool.toNat_true, Nat.add_comm, Function.iterate_succ_apply, if_pos rfl]

/-- Telling a list of listeners is telling each of them. -/
private theorem iterate_invalidate (count : Nat) :
    ∀ listeners : List κ, invalidate^[count] listeners = listeners.map invalidate^[count] := by
  induction count with
  | zero => exact fun listeners => (List.map_id listeners).symm
  | succ count ih =>
      intro listeners
      have hall : invalidate listeners = listeners.map invalidate := rfl
      rw [Function.iterate_succ_apply, ih, hall, List.map_map, Function.iterate_succ]

/-- **Each listener is told once of other layers, and of nothing else.**  After any run from any
parameters, with any listeners, and refused operations included:

Setting or resetting a layer tells each listener once if the sources, the search, the grouping
or the path are others afterwards, and then the first group is shown.  If they are the same, or
the operation is refused, no listener is told and everything stays, but for the group or the
order that was put back.  Choosing a group or an order tells nobody.  A property that takes
another name takes the grouping along, and each listener is told once if that happens and not
otherwise; the group and the path stay.

So in the whole run each of them is told as often as there was something to be told. -/
theorem listeners_are_told_once (p : Parameters (List κ)) (earlier : List ParametersOperation) :
    let q := p.afterAll earlier
    (∀ operation : ParametersOperation, operation.setsLayer = true →
      let q' := q.after operation
      (¬SameBasis q.layers q'.layers →
          q'.caches = q.caches.map invalidate ∧ q'.layers.group = 0) ∧
        (SameBasis q.layers q'.layers →
          q'.caches = q.caches ∧
            (operation ≠ .reset .group → q'.layers.group = q.layers.group) ∧
            (operation ≠ .reset .sort → q'.layers.sort = q.layers.sort)) ∧
        ∀ e, q.perform operation = .error e → q' = q) ∧
      (∀ operation : ParametersOperation, operation.arranges = true →
        (q.after operation).caches = q.caches) ∧
      (∀ old new, old ≠ new →
        let q' := q.after (.renameGroupingProperty old new)
        (q'.layers.grouping ≠ q.layers.grouping → q'.caches = q.caches.map invalidate) ∧
          (q'.layers.grouping = q.layers.grouping → q'.caches = q.caches) ∧
          q'.layers.group = q.layers.group ∧ q'.layers.path = q.layers.path) ∧
      q.caches = p.caches.map invalidate^[p.timesTold earlier] := by
  intro q
  refine ⟨fun operation hsets => ⟨?_, ?_, ?_⟩, ?_, ?_, ?_⟩
  · exact told_of_setsLayer hsets
  · exact kept_of_setsLayer hsets
  · exact fun e => after_of_error
  · exact fun operation harranges => (arranged_after harranges).2
  · intro old new hne
    have htold : (q.after (.renameGroupingProperty old new)).caches = _ :=
      caches_renameGroupingProperty old new
    have hlayers : (q.after (.renameGroupingProperty old new)).layers = _ :=
      layers_renameGroupingProperty old new
    have hother := grouping_renameGroupingProperty_ne_iff (p := q) hne
    refine ⟨fun hrenamed => ?_, fun hsame => ?_, ?_, ?_⟩
    · exact htold.trans (if_pos (hother.mp hrenamed))
    · exact htold.trans (if_neg fun hgrouped => hother.mpr hgrouped hsame)
    · rw [hlayers]
    · rw [hlayers]
  · rw [← iterate_invalidate]
    exact caches_afterAll earlier p

end Parameters

end MediaLibrary
