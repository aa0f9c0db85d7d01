/-
What changing the layers does to the caches.

Whatever has been computed for a view depends on its sources, its search, its grouping and
its path of values.  An operation on the layers either leaves all four as they are, or it
drops the caches.  That is all that anyone who keeps results has to know about it.
-/
import MediaLibrary.View.Parameters

namespace MediaLibrary

/-- A grouping as it is after a property is renamed. -/
def Grouping.renamed (old new : String) (g : Grouping) : Grouping :=
  if g.isProperty && g.field = old then { g with field := new } else g

namespace Parameters

variable {κ : Type} [Invalidate κ] {p : Parameters κ}

/-- The layers on which results depend are the same. -/
structure SameBasis (layers layers' : Layers) : Prop where
  sources : layers'.sources = layers.sources
  search : layers'.search = layers.search
  grouping : layers'.grouping = layers.grouping
  path : layers'.path = layers.path

theorem SameBasis.refl (layers : Layers) : SameBasis layers layers := ⟨rfl, rfl, rfl, rfl⟩

/-- What an operation on the layers may leave. -/
inductive Follows (p : Parameters κ) : Parameters κ → Prop
  | kept (layers : Layers) (h : SameBasis p.layers layers) : Follows p ⟨layers, p.caches⟩
  | dropped (layers : Layers) : Follows p ⟨layers, invalidate p.caches⟩

theorem Follows.refl (p : Parameters κ) : Follows p p := .kept p.layers (.refl _)

/-- What setting a layer leaves: everything as it is, or other layers that show the first
group, with the caches dropped. -/
inductive Restarts (p : Parameters κ) : Parameters κ → Prop
  | same : Restarts p p
  | restarted (layers : Layers) (hother : ¬SameBasis p.layers layers) (hfirst : layers.group = 0) :
      Restarts p ⟨layers, invalidate p.caches⟩

theorem Restarts.follows {p' : Parameters κ} (h : p.Restarts p') : p.Follows p' := by
  cases h with
  | same => exact .refl p
  | restarted layers hother hfirst => exact .dropped layers

/-- A setter of one of these layers does nothing if the layer is set already. -/
theorem restarts_set {already : Prop} [Decidable already] {layers : Layers}
    (h : SameBasis p.layers layers → already) :
    p.Restarts (if already then p else p.restart layers) := by
  split
  · exact .same
  · rename_i hother
    -- results do not depend on the group, so putting it back makes no difference here
    exact .restarted _ (fun hsame => hother (h { hsame with })) rfl

theorem restarts_setSources (sources : List SourcePath) : p.Restarts (p.setSources sources) :=
  restarts_set fun hsame => hsame.sources.symm

theorem restarts_setSearch (search : Option Search) : p.Restarts (p.setSearch search) :=
  restarts_set fun hsame => hsame.search.symm

theorem restarts_setGrouping (grouping : Option Grouping) :
    p.Restarts (p.setGrouping grouping) :=
  restarts_set fun hsame => hsame.grouping.symm

theorem restarts_withPath (path : List Value) : p.Restarts (p.withPath path) :=
  restarts_set fun hsame => hsame.path.symm

theorem follows_setSources (sources : List SourcePath) : p.Follows (p.setSources sources) :=
  (restarts_setSources sources).follows

theorem follows_setSearch (search : Option Search) : p.Follows (p.setSearch search) :=
  (restarts_setSearch search).follows

theorem follows_setGrouping (grouping : Option Grouping) : p.Follows (p.setGrouping grouping) :=
  (restarts_setGrouping grouping).follows

theorem follows_withPath (path : List Value) : p.Follows (p.withPath path) :=
  (restarts_withPath path).follows

theorem follows_setGroup (group : UInt64) : p.Follows (p.setGroup group) :=
  .kept _ ⟨rfl, rfl, rfl, rfl⟩

theorem follows_setSort (sort : List SortKey) : p.Follows (p.setSort sort) :=
  .kept _ ⟨rfl, rfl, rfl, rfl⟩

theorem follows_reset (layer : Layer) : p.Follows (p.reset layer) := by
  cases layer with
  | sources => exact follows_setSources _
  | grouping => exact follows_setGrouping _
  | classifier => exact follows_withPath _
  | group => exact follows_setGroup _
  | search => exact follows_setSearch _
  | sort => exact follows_setSort _

theorem follows_notifyModified (name : String) (isProperty : Bool) :
    p.Follows (p.notifyModified name isProperty).2 := by
  unfold notifyModified
  split
  · exact .dropped _
  · exact .refl p

theorem follows_renameGroupingProperty (old new : String) :
    p.Follows (p.renameGroupingProperty old new) := by
  unfold renameGroupingProperty
  split
  · split
    · exact .dropped _
    · exact .refl p
  · exact .refl p

/-! ### The layers that are set, and the grouping -/

@[simp] theorem layers_forceUpdate : p.forceUpdate.layers = p.layers := rfl

/-- A setter leaves the layers as they are if its own is set already, and else other layers that
show their first group. -/
theorem layers_set (holds : Layers → Prop) {already : Prop} [Decidable already] {layers : Layers}
    (hkept : already → holds p.layers) (hset : holds { layers with group := 0 }) :
    holds (if already then p else p.restart layers).layers := by
  split
  · rename_i halready
    exact hkept halready
  · exact hset

@[simp] theorem grouping_setSources (sources : List SourcePath) :
    (p.setSources sources).layers.grouping = p.layers.grouping :=
  layers_set (·.grouping = p.layers.grouping) (fun _ => rfl) rfl

@[simp] theorem grouping_setSearch (search : Option Search) :
    (p.setSearch search).layers.grouping = p.layers.grouping :=
  layers_set (·.grouping = p.layers.grouping) (fun _ => rfl) rfl

@[simp] theorem grouping_setGrouping (grouping : Option Grouping) :
    (p.setGrouping grouping).layers.grouping = grouping :=
  layers_set (·.grouping = grouping) id rfl

@[simp] theorem grouping_withPath (path : List Value) :
    (p.withPath path).layers.grouping = p.layers.grouping :=
  layers_set (·.grouping = p.layers.grouping) (fun _ => rfl) rfl

@[simp] theorem sources_setSources (sources : List SourcePath) :
    (p.setSources sources).layers.sources = sources :=
  layers_set (·.sources = sources) id rfl

@[simp] theorem search_setSearch (search : Option Search) :
    (p.setSearch search).layers.search = search.filter (!·.isBlank) :=
  layers_set (fun q => q.search = search.filter (!·.isBlank)) id rfl

@[simp] theorem layers_notifyModified (name : String) (isProperty : Bool) :
    (p.notifyModified name isProperty).2.layers = p.layers := by
  unfold notifyModified
  split <;> rfl

/-- Only the layer of the grouping takes the grouping away. -/
theorem grouping_reset (layer : Layer) :
    (p.reset layer).layers.grouping = p.layers.grouping ∨
      (p.reset layer).layers.grouping = none := by
  cases layer with
  | grouping => exact Or.inr (grouping_setGrouping none)
  | sources => exact Or.inl (grouping_setSources _)
  | classifier => exact Or.inl (grouping_withPath _)
  | group => exact Or.inl rfl
  | search => exact Or.inl (grouping_setSearch _)
  | sort => exact Or.inl rfl

/-- Only the grouping follows its property to a new name. -/
theorem layers_renameGroupingProperty (old new : String) :
    (p.renameGroupingProperty old new).layers =
      { p.layers with grouping := p.layers.grouping.map (·.renamed old new) } := by
  obtain ⟨⟨sources, grouping, path, group, search, sort⟩, caches⟩ := p
  cases grouping with
  | none => rfl
  | some g =>
      rw [Option.map_some, Grouping.renamed, renameGroupingProperty]
      dsimp only
      split <;> rfl

omit [Invalidate κ] in
theorem groupsBy_property {name : String} :
    p.groupsBy name true = true ↔
      ∃ g, p.layers.grouping = some g ∧ g.isProperty = true ∧ g.field = name := by
  unfold groupsBy
  cases p.layers.grouping with
  | none => simp
  | some g => simp [and_comm]

/-- A property that the view is not grouped by may be renamed. -/
theorem renameGroupingProperty_of_not_groupsBy {old : String} (h : ¬p.groupsBy old true = true)
    (new : String) : p.renameGroupingProperty old new = p := by
  unfold renameGroupingProperty
  split
  · rename_i g hg
    refine if_neg fun hgrouped => h (groupsBy_property.mpr ⟨g, hg, ?_⟩)
    simpa using hgrouped
  · rfl

/-! ### The path -/

@[simp] theorem path_withPath (path : List Value) : (p.withPath path).layers.path = path :=
  layers_set (·.path = path) id rfl

@[simp] theorem search_withPath (path : List Value) :
    (p.withPath path).layers.search = p.layers.search :=
  layers_set (·.search = p.layers.search) (fun _ => rfl) rfl

/-! ### Layers of a view that shows its first group

Setting a layer may put the view back to its first group, and another grouping forgets the path.
Where there is nothing to be put back or forgotten, the layer that is set is all that changes. -/

theorem layers_setSources (hgroup : p.layers.group = 0) (sources : List SourcePath) :
    (p.setSources sources).layers = { p.layers with sources } :=
  layers_set (· = { p.layers with sources }) (fun hsame => by rw [← hsame]) (by rw [← hgroup])

theorem layers_setGrouping (hgroup : p.layers.group = 0) (hpath : p.layers.path = [])
    (grouping : Option Grouping) :
    (p.setGrouping grouping).layers = { p.layers with grouping } :=
  layers_set (· = { p.layers with grouping }) (fun hsame => by rw [← hsame])
    (by rw [← hgroup, ← hpath])

theorem layers_withPath (hgroup : p.layers.group = 0) (path : List Value) :
    (p.withPath path).layers = { p.layers with path } :=
  layers_set (· = { p.layers with path }) (fun hsame => by rw [← hsame]) (by rw [← hgroup])

/-- A search for something puts the view back to its first group, whatever group was chosen. -/
theorem layers_setSearch (hsearch : p.layers.search = none) (search : Option Search) :
    (p.setSearch search).layers =
      { p.layers with
        search := search.filter (!·.isBlank)
        group := if (search.filter (!·.isBlank)).isSome then 0 else p.layers.group } := by
  unfold setSearch restart
  dsimp only
  rw [hsearch]
  cases search.filter (!·.isBlank) with
  | none =>
      show p.layers = { p.layers with search := none }
      rw [← hsearch]
  | some s => rfl

/-! ### The choice of a group -/

omit [Invalidate κ] in
/-- A choice that was moved into range is not moved again. -/
theorem clampGroup_of_clamped {p' : Parameters κ} {count : Nat}
    (h : p'.layers = (p.clampGroup count).layers) :
    (p'.clampGroup count).layers = (p.clampGroup count).layers := by
  have hle : (p.clampGroup count).layers.group ≤ UInt64.ofNat (count - 1) := Std.min_le_right
  have hmin := Std.LawfulOrderLeftLeaningMin.min_eq_left _ _ hle
  show { p'.layers with group := min p'.layers.group (UInt64.ofNat (count - 1)) } = _
  rw [h, hmin]

omit [Invalidate κ] in
/-- Where there are groups, one of them is chosen. -/
theorem clampGroup_lt (p : Parameters κ) {count : Nat} (hcount : 0 < count) :
    (p.clampGroup count).layers.group.toNat < count := by
  have hle : (p.clampGroup count).layers.group ≤ UInt64.ofNat (count - 1) := Std.min_le_right
  have hle := UInt64.le_iff_toNat_le.mp hle
  have hmod := Nat.mod_le (count - 1) (2 ^ 64)
  rw [UInt64.toNat_ofNat'] at hle
  omega

omit [Invalidate κ] in
/-- Without groups the first one is chosen. -/
theorem clampGroup_zero (p : Parameters κ) : (p.clampGroup 0).layers.group = 0 := by
  have hle : (p.clampGroup 0).layers.group ≤ 0 := Std.min_le_right
  exact UInt64.le_zero_iff.mp hle

end Parameters

end MediaLibrary
