/-
The layers that a command line names.

A command that shows a view first sets the layers that its arguments name, one after another.
Setting a layer may put others back, so the order in which they are set decides what is left of
them.  On a library whose layers are those of a new one, every layer comes out as it was named,
with one exception: the group is chosen before the search is set, and a search for something
puts the view back to its first group.  Arguments that name both lose the group.
-/
import MediaLibrary.Command.View
import MediaLibrary.Proofs.Command.Program
import MediaLibrary.Proofs.Library.Sound
import MediaLibrary.Proofs.View.Path

namespace MediaLibrary

/-- The session whose library has other layers. -/
def Session.withParameters (s : Session) (parameters : Parameters Caches) : Session :=
  { s with library := { s.library with parameters } }

namespace ViewArguments

variable {a : ViewArguments} {s s' : Session}

/-! ### What arguments name -/

/-- Items that were named by their texts, or those that stand where none was named. -/
def Named {ε α : Type} (texts : List String) (read : String → Except ε α) (default : List α)
    (items : List α) : Prop :=
  if texts = [] then items = default else texts.mapM read = .ok items

/-- A grouping by a field or a property that is arranged as was named. -/
def Arranges (a : ViewArguments) (field : String) (isProperty : Bool)
    (grouping : Option Grouping) : Prop :=
  ∃ order, GroupOrder.ofText a.groupSort = .ok order ∧
    grouping = some
      { field, isProperty, order, reverse := a.reverse, allowSingletons := a.singletons }

/-- The grouping that was named: by a field, or else by a property that has to be defined. -/
def NamesGrouping (a : ViewArguments) (c : Catalog) (grouping : Option Grouping) : Prop :=
  match a.groupBy, a.groupTag with
  | some text, _ => ∃ field, Field.ofText? text = some field ∧ a.Arranges field.name false grouping
  | none, some property => (∃ d, c.get? property = some d) ∧ a.Arranges property true grouping
  | none, none => grouping = none

/-- The path of values that was named, read as the property of the grouping holds them. -/
def NamesPath (a : ViewArguments) (c : Catalog) (grouping : Option Grouping)
    (path : List Value) : Prop :=
  if a.classifier = [] then path = []
  else ∃ g, grouping = some g ∧ c.parse g.field a.classifier = .ok path

/-- The search that was named; a blank text names none. -/
def NamesSearch (a : ViewArguments) (search : Option Search) : Prop :=
  match a.search with
  | none => search = none
  | some text => ∃ condition, SearchCondition.ofText a.searchMode = .ok condition ∧
      search = if Text.isBlankText text then none else some ⟨text, condition⟩

/-- The layers carry what was named, and a search takes the place of a group. -/
structure Carried (a : ViewArguments) (c : Catalog) (layers : Layers) : Prop where
  sources : Named a.sources SourcePath.ofText Layers.defaultSources layers.sources
  grouping : a.NamesGrouping c layers.grouping
  path : a.NamesPath c layers.grouping layers.path
  search : a.NamesSearch layers.search
  group : layers.group = if layers.search.isSome then 0 else a.group
  sort : Named a.sort SortKey.ofText Layers.defaultSort layers.sort

/-! ### One layer after another -/

open CommandM

/-- Only the layers and what is remembered have changed, and the layers are as given. -/
def Leaves (s : Session) (layers : Layers) (s' : Session) : Prop :=
  ∃ parameters, s' = s.withParameters parameters ∧ parameters.layers = layers

theorem Leaves.refl (s : Session) : Leaves s s.library.layers s := ⟨s.library.parameters, rfl, rfl⟩

/-- An operation that changes the parameters is carried out. -/
theorem leaves_changeParameters {change : Parameters Caches → Parameters Caches}
    (h : onLibrary (LibraryM.changeParameters change) s = .ok () s') :
    Leaves s (change s.library.parameters).layers s' := by
  obtain ⟨library, hrun, rfl⟩ := of_onLibrary_ok h
  cases hrun
  exact ⟨_, rfl, rfl⟩

theorem leaves_applySources (h : a.applySources s = .ok () s')
    (hsources : s.library.layers.sources = Layers.defaultSources)
    (hgroup : s.library.layers.group = 0) :
    ∃ sources, Named a.sources SourcePath.ofText Layers.defaultSources sources ∧
      Leaves s { s.library.layers with sources } s' := by
  rcases of_unless_ok h with ⟨hnone, rfl⟩ | ⟨hsome, sources, hread, h⟩
  · refine ⟨_, ?_, .refl s'⟩
    rw [Named, if_pos (List.isEmpty_iff.mp hnone)]
    exact hsources
  · refine ⟨sources, ?_, ?_⟩
    · rw [Named, if_neg (List.isEmpty_eq_false_iff.mp hsome)]
      exact hread
    · rw [Library.layers, ← Parameters.layers_setSources hgroup]
      exact leaves_changeParameters h

theorem leaves_applySort (h : a.applySort s = .ok () s')
    (hsort : s.library.layers.sort = Layers.defaultSort) :
    ∃ sort, Named a.sort SortKey.ofText Layers.defaultSort sort ∧
      Leaves s { s.library.layers with sort } s' := by
  rcases of_unless_ok h with ⟨hnone, rfl⟩ | ⟨hsome, sort, hread, h⟩
  · refine ⟨_, ?_, .refl s'⟩
    rw [Named, if_pos (List.isEmpty_iff.mp hnone)]
    exact hsort
  · refine ⟨sort, ?_, leaves_changeParameters h⟩
    rw [Named, if_neg (List.isEmpty_eq_false_iff.mp hsome)]
    exact hread

/-- A grouping is arranged as was named; by a property, if the property is defined. -/
private theorem leaves_arranged {field : String} {isProperty : Bool}
    (h : (do
      let order ← check .unknownName (GroupOrder.ofText a.groupSort)
      onLibrary (LibraryM.setGrouping (some
        { field, isProperty, order, reverse := a.reverse,
          allowSingletons := a.singletons })) : CommandM Unit) s = .ok () s')
    (hpath : s.library.layers.path = []) (hgroup : s.library.layers.group = 0) :
    ∃ grouping, a.Arranges field isProperty grouping ∧
      (isProperty = true → ∃ d, s.library.catalog.get? field = some d) ∧
      Leaves s { s.library.layers with grouping } s' := by
  obtain ⟨order, horder, hset⟩ := of_check_bind_ok h
  obtain ⟨library, hrun, rfl⟩ := of_onLibrary_ok hset
  let grouping : Grouping :=
    { field, isProperty, order, reverse := a.reverse, allowSingletons := a.singletons }
  have hensures : LibraryM.Ensures (LibraryM.setGrouping (some grouping)) s.library
      (fun _ l' => s.library.catalog.Resolves grouping ∧
        l' = { s.library with parameters := s.library.parameters.setGrouping (some grouping) })
      fun _ => True :=
    LibraryM.ensures_setGrouping trivial fun hresolves => ⟨hresolves grouping rfl, rfl⟩
  obtain ⟨hresolves, rfl⟩ := hensures.of_ok hrun
  refine ⟨some grouping, ⟨order, horder, rfl⟩, fun hproperty => ?_, _, rfl, ?_⟩
  · have hresolves := Catalog.resolves_iff.mp hresolves
    rwa [if_pos hproperty] at hresolves
  · exact Parameters.layers_setGrouping hgroup hpath _

theorem leaves_applyGrouping (h : a.applyGrouping s = .ok () s')
    (hgrouping : s.library.layers.grouping = none) (hpath : s.library.layers.path = [])
    (hgroup : s.library.layers.group = 0) :
    ∃ grouping, a.NamesGrouping s.library.catalog grouping ∧
      Leaves s { s.library.layers with grouping } s' := by
  obtain ⟨named, hnamed, hset⟩ := of_check_bind_ok h
  unfold groupingField at hnamed
  cases hby : a.groupBy with
  | some text =>
      rw [hby] at hnamed
      dsimp only at hnamed
      cases hfield : Field.ofText? text with
      | none =>
          rw [hfield] at hnamed
          cases hnamed
      | some field =>
          rw [hfield] at hnamed
          cases hnamed
          obtain ⟨grouping, harranges, _, hleaves⟩ := leaves_arranged hset hpath hgroup
          refine ⟨grouping, ?_, hleaves⟩
          rw [NamesGrouping, hby]
          exact ⟨field, hfield, harranges⟩
  | none =>
      rw [hby] at hnamed
      cases htag : a.groupTag with
      | some property =>
          rw [htag] at hnamed
          cases hnamed
          obtain ⟨grouping, harranges, hdefined, hleaves⟩ := leaves_arranged hset hpath hgroup
          refine ⟨grouping, ?_, hleaves⟩
          rw [NamesGrouping, hby, htag]
          exact ⟨hdefined rfl, harranges⟩
      | none =>
          rw [htag] at hnamed
          cases hnamed
          obtain ⟨_, rfl⟩ := of_pure_ok hset
          refine ⟨_, ?_, .refl s'⟩
          rw [NamesGrouping, hby, htag]
          exact hgrouping

theorem leaves_applyPath (h : a.applyPath s = .ok () s')
    (hpath : s.library.layers.path = []) (hgroup : s.library.layers.group = 0) :
    ∃ path, a.NamesPath s.library.catalog s.library.layers.grouping path ∧
      Leaves s { s.library.layers with path } s' := by
  unfold NamesPath
  by_cases hnone : a.classifier = []
  · rw [applyPath, hnone] at h
    obtain ⟨_, rfl⟩ := of_pure_ok h
    exact ⟨_, (if_pos hnone).mpr hpath, .refl s'⟩
  · rw [applyPath, List.isEmpty_eq_false_iff.mpr hnone] at h
    have h : (do
      let path ← check (.library ∘ .schema) (s.library.catalog.parse
        (s.library.layers.grouping.elim "" (·.field)) a.classifier)
      onLibrary (LibraryM.setClassifier path) : CommandM Unit) s = .ok () s' := h
    obtain ⟨path, hread, hset⟩ := of_check_bind_ok h
    obtain ⟨library, hrun, rfl⟩ := of_onLibrary_ok hset
    have hensures : LibraryM.Ensures (LibraryM.setClassifier path) s.library
        (fun _ l' => ∃ parameters,
          s.library.parameters.setClassifier path s.library.catalog = .ok parameters ∧
            l' = { s.library with parameters }) fun _ => True := by
      refine LibraryM.ensures_bind.mpr (LibraryM.ensures_get.mpr (LibraryM.ensures_bind.mpr ?_))
      exact LibraryM.ensures_check (fun parameters h => ⟨parameters, h, rfl⟩) fun _ _ => trivial
    obtain ⟨parameters, hparameters, rfl⟩ := hensures.of_ok hrun
    obtain ⟨g, hg, hfollowed⟩ :=
      Parameters.of_setClassifier_ok (Catalog.parse_ne_nil hnone hread) hparameters
    have hg : s.library.layers.grouping = some g := hg
    rw [hg] at hread
    refine ⟨path, (if_neg hnone).mpr ⟨g, hg, hread⟩, parameters, rfl, ?_⟩
    rw [hfollowed (Catalog.admitsValues_of_parse hread)]
    exact Parameters.layers_withPath hgroup path

theorem leaves_applySearch (h : a.applySearch s = .ok () s')
    (hsearch : s.library.layers.search = none) :
    ∃ search, a.NamesSearch search ∧ Leaves s { s.library.layers with
      search, group := if search.isSome then 0 else s.library.layers.group } s' := by
  unfold applySearch at h
  unfold NamesSearch
  cases hnamed : a.search with
  | none =>
      rw [hnamed] at h
      obtain ⟨_, rfl⟩ := of_pure_ok h
      refine ⟨none, rfl, ?_⟩
      show Leaves s' { s'.library.layers with search := none } s'
      rw [← hsearch]
      exact .refl s'
  | some text =>
      rw [hnamed] at h
      obtain ⟨condition, hread, hset⟩ := of_check_bind_ok h
      have hleaves := leaves_changeParameters hset
      rw [Parameters.layers_setSearch hsearch] at hleaves
      refine ⟨_, ⟨condition, hread, ?_⟩, hleaves⟩
      rw [Option.filter_some, Search.isBlank]
      cases Text.isBlankText text <;> rfl

/-- **On a new library the layers come out as they were named, and a search takes the place of
a group.**  Arguments that are not refused change nothing but the layers and what is remembered
of views.  Each layer is what the arguments name, or what it is by default if they do not name
it; but the first group is chosen if anything is searched for, whatever group was named. -/
theorem apply_carries_named_layers (a : ViewArguments) (s s' : Session)
    (hnew : s.library.layers = .default) (h : a.apply s = .ok () s') :
    ∃ parameters, s' = s.withParameters parameters ∧
      a.Carried s.library.catalog parameters.layers := by
  unfold apply at h
  obtain ⟨_, s₁, h₁, h⟩ := exists_of_bind_ok h
  obtain ⟨_, s₂, h₂, h⟩ := exists_of_bind_ok h
  obtain ⟨_, s₃, h₃, h⟩ := exists_of_bind_ok h
  obtain ⟨_, s₄, h₄, h⟩ := exists_of_bind_ok h
  obtain ⟨_, s₅, h₅, h₆⟩ := exists_of_bind_ok h
  -- Up to the path the first group is chosen, so each step changes its own layer alone.
  obtain ⟨sources, hsources, p₁, rfl, hp₁⟩ :=
    leaves_applySources h₁ (congrArg Layers.sources hnew) (congrArg Layers.group hnew)
  rw [hnew] at hp₁
  obtain ⟨grouping, hgrouping, p₂, rfl, hp₂⟩ := leaves_applyGrouping h₂
    (congrArg Layers.grouping hp₁) (congrArg Layers.path hp₁) (congrArg Layers.group hp₁)
  have hp₂ : p₂.layers = { p₁.layers with grouping } := hp₂
  rw [hp₁] at hp₂
  obtain ⟨path, hpath, p₃, rfl, hp₃⟩ :=
    leaves_applyPath h₃ (congrArg Layers.path hp₂) (congrArg Layers.group hp₂)
  have hp₃ : p₃.layers = { p₂.layers with path } := hp₃
  rw [hp₂] at hp₃
  obtain ⟨p₄, rfl, hp₄⟩ := leaves_changeParameters h₄
  have hp₄ : p₄.layers = { p₃.layers with group := a.group } := hp₄
  rw [hp₃] at hp₄
  obtain ⟨search, hsearch, p₅, rfl, hp₅⟩ := leaves_applySearch h₅ (congrArg Layers.search hp₄)
  have hp₅ : p₅.layers = { p₄.layers with
    search, group := if search.isSome then 0 else p₄.layers.group } := hp₅
  rw [hp₄] at hp₅
  obtain ⟨sort, hsort, p₆, rfl, hp₆⟩ := leaves_applySort h₆ (congrArg Layers.sort hp₅)
  have hp₆ : p₆.layers = { p₅.layers with sort } := hp₆
  rw [hp₅] at hp₆
  have hpath : a.NamesPath s.library.catalog p₂.layers.grouping path := hpath
  rw [hp₂] at hpath
  refine ⟨p₆, rfl, ?_⟩
  rw [hp₆]
  exact ⟨hsources, hgrouping, hpath, hsearch, rfl, hsort⟩

/-- All layers are named, the search by a blank text, which leaves the group alone. -/
theorem apply_carries_a_path_and_a_group :
    let a : ViewArguments :=
      { sources := ["found-readable", "discarded"], groupTag := some "mood", groupSort := "count",
        singletons := true, classifier := ["calm", "calm"], group := 2, search := some " ",
        sort := ["-size", "title"] }
    let operations : List LibraryOperation :=
      [.defineProperty "mood" .str true none none, .importRecords [{ path := "/a" }]]
    let s : Session := ⟨Library.afterAll operations, ""⟩
    ∃ parameters, a.apply s = .ok () (s.withParameters parameters) ∧
      a.Carried s.library.catalog parameters.layers ∧
      parameters.layers.path = [.str "calm"] ∧ parameters.layers.group = 2 := by
  intro a operations s
  let told (answer : Unit × Session) : List Value × UInt64 :=
    (answer.2.library.layers.path, answer.2.library.layers.group)
  have htold : (Checked.answer? (a.apply s)).map told = some ([.str "calm"], 2) := by
    decide +kernel
  have hnew : s.library.layers = .default := by decide +kernel
  obtain ⟨⟨_, s'⟩, hanswer, htold⟩ := Option.map_eq_some_iff.mp htold
  have hrun := Checked.eq_ok_of_answer? hanswer
  obtain ⟨parameters, rfl, hcarried⟩ := apply_carries_named_layers a s s' hnew hrun
  obtain ⟨hpath, hgroup⟩ := Prod.mk.inj htold
  exact ⟨parameters, hrun, hcarried, hpath, hgroup⟩

/-- Arguments that name a group and a search lose the group. -/
theorem apply_loses_group_to_search :
    let a : ViewArguments :=
      { groupBy := some "container_format", group := 1, search := some "a" }
    ∃ s', a.apply ⟨Library.empty, ""⟩ = .ok () s' ∧
      s'.library.layers.search = some ⟨"a", .and⟩ ∧ s'.library.layers.group ≠ a.group := by
  intro a
  let told (answer : Unit × Session) : Option Search × UInt64 :=
    (answer.2.library.layers.search, answer.2.library.layers.group)
  have htold : (Checked.answer? (a.apply ⟨Library.empty, ""⟩)).map told =
      some (some ⟨"a", .and⟩, 0) := by decide +kernel
  obtain ⟨⟨_, s'⟩, hanswer, htold⟩ := Option.map_eq_some_iff.mp htold
  obtain ⟨hsearch, hgroup⟩ := Prod.mk.inj htold
  refine ⟨s', Checked.eq_ok_of_answer? hanswer, hsearch, ?_⟩
  have hgroup : s'.library.layers.group = 0 := hgroup
  rw [hgroup]
  decide

end ViewArguments

end MediaLibrary
