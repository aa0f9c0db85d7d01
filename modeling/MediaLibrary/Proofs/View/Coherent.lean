/-
Layers that fit the catalog.

Three of the layers are not free: the path is one of the property that the view is grouped by,
and a search is for something.  `Coherent` says so.  Each operation on the layers keeps them
coherent for its own reason.  Another grouping starts without a path, a path is only followed
as far as it may be, and a blank search is none.
-/
import MediaLibrary.Proofs.View.Parameters
import MediaLibrary.Proofs.View.Path

namespace MediaLibrary

/-- The layers fit each other and the catalog. -/
structure Layers.Coherent (layers : Layers) (c : Catalog) : Prop where
  path : c.AdmitsPath layers.grouping layers.path
  search : ∀ s, layers.search = some s → s.isBlank = false

namespace Layers.Coherent

variable {c : Catalog}

theorem default (c : Catalog) : Layers.default.Coherent c where
  path := Catalog.admitsPath_nil none
  search s hs := by cases hs

/-- The sources, the group and the order are free. -/
theorem congr {layers layers' : Layers} (h : layers.Coherent c)
    (hgrouping : layers'.grouping = layers.grouping) (hpath : layers'.path = layers.path)
    (hsearch : layers'.search = layers.search) : layers'.Coherent c := by
  refine ⟨?_, ?_⟩
  · rw [hgrouping, hpath]
    exact h.path
  · rw [hsearch]
    exact h.search

variable {κ : Type} [Invalidate κ] {p : Parameters κ}

theorem setSources (h : p.layers.Coherent c) (sources : List SourcePath) :
    (p.setSources sources).layers.Coherent c :=
  Parameters.layers_set (·.Coherent c) (fun _ => h) (h.congr rfl rfl rfl)

theorem setSearch (h : p.layers.Coherent c) (search : Option Search) :
    (p.setSearch search).layers.Coherent c := by
  refine Parameters.layers_set (·.Coherent c) (fun _ => h) ⟨h.path, fun s hs => ?_⟩
  have hkept : search.filter (!·.isBlank) = some s := hs
  simpa using (Option.filter_eq_some_iff.mp hkept).2

theorem setGrouping (h : p.layers.Coherent c) (grouping : Option Grouping) :
    (p.setGrouping grouping).layers.Coherent c :=
  Parameters.layers_set (·.Coherent c) (fun _ => h) ⟨Catalog.admitsPath_nil grouping, h.search⟩

theorem withPath (h : p.layers.Coherent c) {path : List Value} (hpath : p.MayFollow c path) :
    (p.withPath path).layers.Coherent c := by
  refine ⟨?_, ?_⟩
  · rw [Parameters.grouping_withPath, Parameters.path_withPath]
    exact hpath h.path
  · rw [Parameters.search_withPath]
    exact h.search

/-- Without a path it does not matter what the catalog defines. -/
theorem classifierReset (h : p.layers.Coherent c) (c' : Catalog) :
    p.classifierReset.layers.Coherent c' := by
  refine ⟨?_, ?_⟩
  · rw [Parameters.classifierReset, Parameters.path_withPath]
    exact Catalog.admitsPath_nil _
  · rw [Parameters.classifierReset, Parameters.search_withPath]
    exact h.search

theorem classifierPop (h : p.layers.Coherent c) : p.classifierPop.2.layers.Coherent c :=
  h.withPath fun hpath => hpath.sublist (List.dropLast_sublist _)

theorem reset (h : p.layers.Coherent c) (layer : Layer) : (p.reset layer).layers.Coherent c := by
  cases layer with
  | sources => exact h.setSources _
  | grouping => exact h.setGrouping none
  | classifier => exact h.classifierReset c
  | group => exact h.congr rfl rfl rfl
  | search => exact h.setSearch none
  | sort => exact h.congr rfl rfl rfl

end Layers.Coherent

end MediaLibrary
