/-
Putting layers back.

A layer that is put back is what it is by default, and what this does to the other layers is no
more than put them back as well.  So once every layer has had its turn, in whatever order, nothing
is left of what has been said about the view.

The grouping is put back by setting it to none, and setting a layer to what it already is does
nothing.  A view that is not grouped has no path to forget, which takes a look at whole runs: a
path is only ever followed in a grouping, and a grouping is only taken away together with its path.
But it may have a group, which can be chosen at any time.  That choice stays.
-/
import MediaLibrary.Library.Basic
import MediaLibrary.Proofs.View.Listeners

namespace MediaLibrary

namespace Layers

variable {layers layers' layers'' : Layers} {layer : Layer}

/-- One of the layers is the same. -/
def SameIn (layers layers' : Layers) : Layer → Prop
  | .sources => layers.sources = layers'.sources
  | .grouping => layers.grouping = layers'.grouping
  | .classifier => layers.path = layers'.path
  | .group => layers.group = layers'.group
  | .search => layers.search = layers'.search
  | .sort => layers.sort = layers'.sort

theorem SameIn.refl (layers : Layers) (layer : Layer) : layers.SameIn layers layer := by
  cases layer <;> rfl

theorem SameIn.trans (h : layers.SameIn layers' layer) (h' : layers'.SameIn layers'' layer) :
    layers.SameIn layers'' layer := by
  cases layer <;> exact Eq.trans h h'

/-- Layers that are the same one by one are the same. -/
theorem eq_of_sameIn (h : ∀ layer, layers.SameIn layers' layer) : layers = layers' := by
  have hsources := h .sources
  have hgrouping := h .grouping
  have hpath := h .classifier
  have hgroup := h .group
  have hsearch := h .search
  have hsort := h .sort
  cases layers
  cases layers'
  simp only [SameIn] at hsources hgrouping hpath hgroup hsearch hsort
  rw [hsources, hgrouping, hpath, hgroup, hsearch, hsort]

/-- Only a view that is grouped has a path. -/
def PathIsGrouped (layers : Layers) : Prop := layers.grouping = none → layers.path = []

end Layers

namespace Parameters

open Layers (SameIn)

variable {κ : Type} [Invalidate κ] {p p' : Parameters κ}

/-! ### One layer -/

/-- A layer that is put back is the default. -/
theorem reset_sameIn_default (p : Parameters κ) (layer : Layer) :
    (p.reset layer).layers.SameIn .default layer := by
  cases layer with
  | sources => exact sources_setSources Layers.defaultSources
  | grouping => exact grouping_setGrouping none
  | classifier => exact path_withPath []
  | group => rfl
  | search => exact search_setSearch none
  | sort => rfl

/-- Setting a layer does nothing if it is set already, and else shows the first group. -/
theorem set_sameIn {already : Prop} [Decidable already] {layers : Layers} {other : Layer}
    (h : layers.SameIn p.layers other ∨ layers.SameIn .default other) :
    let q := if already then p else p.restart layers
    q.layers.SameIn p.layers other ∨ q.layers.SameIn .default other := by
  refine layers_set (fun q => q.SameIn p.layers other ∨ q.SameIn .default other)
    (fun _ => .inl (.refl _ _)) ?_
  cases other with
  | group => exact .inr rfl
  | _ => exact h

/-- Putting a layer back leaves each other layer as it is, or puts it back too. -/
theorem reset_sameIn (p : Parameters κ) (layer other : Layer) :
    (p.reset layer).layers.SameIn p.layers other ∨
      (p.reset layer).layers.SameIn .default other := by
  cases layer with
  | sources =>
      refine set_sameIn ?_
      cases other with
      | sources => exact .inr rfl
      | _ => exact .inl rfl
  | grouping =>
      refine set_sameIn ?_
      cases other with
      | grouping | classifier => exact .inr rfl
      | _ => exact .inl rfl
  | classifier =>
      refine set_sameIn ?_
      cases other with
      | classifier => exact .inr rfl
      | _ => exact .inl rfl
  | group =>
      cases other with
      | group => exact .inr rfl
      | _ => exact .inl rfl
  | search =>
      refine set_sameIn ?_
      cases other with
      | search => exact .inr rfl
      | _ => exact .inl rfl
  | sort =>
      cases other with
      | sort => exact .inr rfl
      | _ => exact .inl rfl

/-! ### Layers one after the other -/

/-- Layers that are put back one after the other are the default, and stay so. -/
theorem foldl_reset_sameIn_default {layer : Layer} (order : List Layer) :
    ∀ {p : Parameters κ}, p.layers.SameIn .default layer ∨ layer ∈ order →
      (order.foldl reset p).layers.SameIn .default layer := by
  induction order with
  | nil =>
      intro p h
      exact h.resolve_right List.not_mem_nil
  | cons first rest ih =>
      intro p h
      refine ih ?_
      rcases h with hdefault | hmem
      · rcases reset_sameIn p first layer with hsame | hreset
        · exact .inl (hsame.trans hdefault)
        · exact .inl hreset
      · rcases List.mem_cons.mp hmem with rfl | hmem
        · exact .inl (reset_sameIn_default p layer)
        · exact .inr hmem

theorem foldl_reset (p : Parameters κ) {order : List Layer} (h : ∀ layer, layer ∈ order) :
    (order.foldl reset p).layers = .default :=
  Layers.eq_of_sameIn fun layer => foldl_reset_sameIn_default order (.inr (h layer))

/-! ### Paths in runs -/

theorem pathIsGrouped_setSources (h : p.layers.PathIsGrouped) (sources : List SourcePath) :
    (p.setSources sources).layers.PathIsGrouped :=
  layers_set Layers.PathIsGrouped (fun _ => h) h

theorem pathIsGrouped_setSearch (h : p.layers.PathIsGrouped) (search : Option Search) :
    (p.setSearch search).layers.PathIsGrouped :=
  layers_set Layers.PathIsGrouped (fun _ => h) h

theorem pathIsGrouped_setGrouping (h : p.layers.PathIsGrouped) (grouping : Option Grouping) :
    (p.setGrouping grouping).layers.PathIsGrouped :=
  layers_set Layers.PathIsGrouped (fun _ => h) fun _ => rfl

theorem pathIsGrouped_withPath {path : List Value} (h : p.layers.grouping = none → path = []) :
    (p.withPath path).layers.PathIsGrouped := by
  intro hgrouping
  rw [grouping_withPath] at hgrouping
  rw [path_withPath, h hgrouping]

/-- Where there is a property to be followed, there is a grouping. -/
theorem pathIsGrouped_of_classified {c : Catalog} {property : String}
    (h : p.classifiedProperty c = .ok property) (path : List Value) :
    (p.withPath path).layers.PathIsGrouped := by
  obtain ⟨g, _, hg, _⟩ := of_classifiedProperty_ok h
  exact pathIsGrouped_withPath fun hnone => absurd (hg.symm.trans hnone) (Option.some_ne_none g)

theorem pathIsGrouped_reset (h : p.layers.PathIsGrouped) (layer : Layer) :
    (p.reset layer).layers.PathIsGrouped := by
  cases layer with
  | sources => exact pathIsGrouped_setSources h _
  | grouping => exact pathIsGrouped_setGrouping h none
  | classifier => exact pathIsGrouped_withPath fun _ => rfl
  | group => exact h
  | search => exact pathIsGrouped_setSearch h none
  | sort => exact h

theorem pathIsGrouped_perform (h : p.layers.PathIsGrouped) {operation : ParametersOperation}
    (hperform : p.perform operation = .ok p') : p'.layers.PathIsGrouped := by
  cases operation with
  | classifierPush value catalog =>
      obtain ⟨property, hclassified, hpush⟩ := Checked.exists_of_bind_ok hperform
      obtain ⟨path, _, hpush⟩ := Checked.exists_of_bind_ok hpush
      cases hpush
      exact pathIsGrouped_of_classified hclassified path
  | setClassifier path catalog =>
      have hset : p.setClassifier path catalog = .ok p' := hperform
      unfold setClassifier at hset
      split at hset
      · cases hset
        exact pathIsGrouped_withPath fun _ => rfl
      · obtain ⟨property, hclassified, hset⟩ := Checked.exists_of_bind_ok hset
        obtain ⟨followed, _, hset⟩ := Checked.exists_of_bind_ok hset
        cases hset
        exact pathIsGrouped_of_classified hclassified followed
  | classifierPop =>
      cases hperform
      refine pathIsGrouped_withPath fun hgrouping => ?_
      rw [h hgrouping, List.dropLast_nil]
  | renameGroupingProperty old new =>
      cases hperform
      rw [layers_renameGroupingProperty]
      exact fun hgrouping => h (Option.map_eq_none_iff.mp hgrouping)
  | notifyModified name isProperty =>
      cases hperform
      rw [layers_notifyModified]
      exact h
  | setSources sources =>
      cases hperform
      exact pathIsGrouped_setSources h sources
  | setSearch search =>
      cases hperform
      exact pathIsGrouped_setSearch h search
  | setGrouping grouping =>
      cases hperform
      exact pathIsGrouped_setGrouping h grouping
  | classifierReset =>
      cases hperform
      exact pathIsGrouped_withPath fun _ => rfl
  | reset layer =>
      cases hperform
      exact pathIsGrouped_reset h layer
  | setGroup | clampGroup | setSort | forceUpdate =>
      cases hperform
      exact h

theorem pathIsGrouped_afterAll (operations : List ParametersOperation) :
    ∀ {p : Parameters κ}, p.layers.PathIsGrouped → (p.afterAll operations).layers.PathIsGrouped := by
  induction operations with
  | nil => exact fun h => h
  | cons operation rest ih =>
      intro p h
      refine ih (p := p.after operation) ?_
      cases hperform : p.perform operation with
      | error e =>
          rw [after_of_error hperform]
          exact h
      | ok p' =>
          rw [after_of_ok hperform]
          exact pathIsGrouped_perform h hperform

/-- Taking the grouping away shows the first group; where there is none to be taken away, nothing
is done. -/
theorem reset_grouping (p : Parameters κ) :
    (p.layers.grouping ≠ none → (p.reset .grouping).layers.group = 0) ∧
      (p.layers.grouping = none → p.reset .grouping = p) := by
  refine ⟨fun hgrouped => ?_, fun hnone => if_pos hnone⟩
  show (p.setGrouping none).layers.group = 0
  rw [setGrouping, if_neg hgrouped]
  rfl

/-- **Each layer can be put back to what it is by default.**  After any run from the default
layers, refused operations included, a layer that is put back is the default, and once all six are
put back, in any order and any of them more than once, so are the layers as a whole.  Putting the
grouping back leaves no path.  It shows the first group if there was a grouping; without one it
does nothing, so a group that was chosen stays. -/
theorem layers_are_put_back (caches : κ) (operations : List ParametersOperation) :
    let q := (Parameters.mk Layers.default caches).afterAll operations
    (∀ layer, (q.reset layer).layers.SameIn .default layer) ∧
      (q.reset .grouping).layers.path = [] ∧
      ((q.reset .grouping).layers.group = 0 ↔ q.layers.grouping ≠ none ∨ q.layers.group = 0) ∧
      (q.layers.grouping = none → q.reset .grouping = q) ∧
      ∀ order : List Layer, (∀ layer, layer ∈ order) →
        (order.foldl reset q).layers = .default := by
  intro q
  have hpath : q.layers.PathIsGrouped := pathIsGrouped_afterAll operations fun _ => rfl
  obtain ⟨hgrouped, hnone⟩ := reset_grouping q
  refine ⟨reset_sameIn_default q, ?_, ⟨fun hfirst => ?_, ?_⟩, hnone, fun order => foldl_reset q⟩
  · exact pathIsGrouped_reset hpath .grouping (reset_sameIn_default q .grouping)
  · by_cases hgrouping : q.layers.grouping = none
    · rw [hnone hgrouping] at hfirst
      exact .inr hfirst
    · exact .inl hgrouping
  · rintro (hgrouping | hgroup)
    · exact hgrouped hgrouping
    · rcases reset_sameIn q .grouping .group with hsame | hreset
      · have hkept : (q.reset .grouping).layers.group = q.layers.group := hsame
        exact hkept.trans hgroup
      · exact hreset

/-- The sixth group is chosen without a grouping, and stays when the grouping is put back. -/
theorem chosen_group_is_not_put_back :
    let q := (Parameters.mk Layers.default ({} : Caches)).afterAll [.setGroup 5]
    (q.reset .grouping).layers.group = 5 ∧
      ¬(q.reset .grouping).layers.SameIn .default .group := by
  intro q
  have hstays : (q.reset .grouping).layers.group = 5 := rfl
  refine ⟨hstays, fun hfirst => ?_⟩
  have hzero : (5 : UInt64) = 0 := hstays.symm.trans hfirst
  exact absurd hzero (by decide)

end Parameters

end MediaLibrary
