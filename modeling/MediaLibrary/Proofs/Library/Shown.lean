/-
What a grouped view shows.

A view that is asked for several times, once for each of its pages, should show one thing:
the groups of the selected records as they are now, and over all pages the members of the
group that is chosen.  `ShowsGroups` says that it does.

The records of a view are selected anew each time, and only the groups are remembered.  A
view therefore shows the groups as they are now if and only if the groups that it remembers
are up to date, and then the filter that it makes of the chosen group selects the members of
that group.  Which operations leave the remembered groups out of date is known from
`Disturbs`.
-/
import MediaLibrary.Proofs.Library.Disturbing
import MediaLibrary.Proofs.View.Page
import MediaLibrary.Proofs.View.Sort

namespace MediaLibrary

namespace Library

variable {l l' : Library} {grouping : Grouping} {basis : Basis} {filter : Filter}

/-! ### Views -/

/-- What a view shows, unless it is refused. -/
def shows? (l : Library) (request : PageRequest) : Option ViewResult :=
  match LibraryM.view request l with
  | .ok result _ => some result
  | .error _ _ => none

/-- Some pages of one size show the members of the group that is chosen. -/
structure ShowsMembers (l : Library) (groups : List Group) (size : UInt64)
    (pages : List ViewResult) (chosen : UInt64) : Prop where
  /-- They are the pages that the library shows. -/
  shown : (List.range pages.length).map (fun k =>
    l.shows? { pageSize := size, pageNumber := UInt64.ofNat k }) = pages.map some
  nonempty : pages ≠ []
  /-- They are all pages of that size, and all show the same group. -/
  counted : ∀ result ∈ pages,
    result.page.pageCount = pages.length ∧ result.layers.group = chosen
  inRange : groups ≠ [] → chosen.toNat < groups.length
  /-- Without a group there are no members. -/
  members : ((pages.flatMap (·.page.records)).map (·.id)).Perm
    (groups[chosen.toNat]?.elim [] Group.ids)
  /-- The records are shown as they are stored. -/
  stored : ∀ r ∈ pages.flatMap (·.page.records), l.store.get? r.id = some r

/-- Every view shows the groups and the members of one of them. -/
structure ShowsGroups (l : Library) (groups : List Group) : Prop where
  told : ∀ request, request.selector = none →
    ∃ result, l.shows? request = some result ∧ result.groups = some (groups.map Group.summary)
  /-- Looking at a view does not change what is shown next. -/
  steady : ∀ request next, (l.after (.view request)).shows? next = l.shows? next
  paged : ∀ size, ∃ pages chosen, l.ShowsMembers groups size pages chosen

/-! ### What a view answers -/

/-- The groups that a view shows where others would be computed. -/
def shownGroups (l : Library) (grouping : Grouping) (fresh : List Group) : List Group :=
  (l.memo.find? (l.groupingKey grouping)).getD fresh

/-- The filter of a group together with those of the other layers. -/
def narrowed (basis : Basis) (path : List Value) (filter : Filter) : Option Group → Filter
  | none => .never
  | some group => .all [filter, basis.groupFilter path group]

/-- The records of the view that is narrowed to one of some groups. -/
def narrowedRecords (l : Library) (basis : Basis) (filter : Filter) (groups : List Group) :
    List Record :=
  let layers := (l.parameters.clampGroup groups.length).layers
  sortRecords layers.sort
    (l.store.select (narrowed basis layers.path filter groups[layers.group.toNat]?))

/-- The view that is narrowed to one of some groups. -/
def narrowedView (l : Library) (basis : Basis) (filter : Filter) (groups : List Group)
    (request : PageRequest) : ViewResult :=
  ⟨paginate (l.narrowedRecords basis filter groups) request,
    (l.parameters.clampGroup groups.length).layers, some (groups.map Group.summary)⟩

/-- What looking at a view with some groups leaves. -/
structure Looked (l : Library) (grouping : Grouping) (groups : List Group) (l' : Library) :
    Prop where
  store : l'.store = l.store
  catalog : l'.catalog = l.catalog
  layers : l'.layers = (l.parameters.clampGroup groups.length).layers
  /-- The groups are remembered from now on. -/
  remembered : l'.memo.find? (l'.groupingKey grouping) = some groups

/-- Looking at a view moves nothing but the choice. -/
theorem Looked.grouping_eq {groups : List Group} (h : l.Looked grouping groups l') :
    l'.layers.grouping = l.layers.grouping := by
  rw [h.layers]
  rfl

theorem Looked.path_eq {groups : List Group} (h : l.Looked grouping groups l') :
    l'.layers.path = l.layers.path := by
  rw [h.layers]
  rfl

open LibraryM

/-- Groups are remembered, whether they were before or not. -/
theorem ensures_shownGroups {fresh : List Group}
    (hfresh : l.computeGroups grouping filter = .ok fresh) :
    Ensures (groupsFor grouping filter) l (fun groups l' =>
      groups = l.shownGroups grouping fresh ∧
        ∃ memo, l' = l.withMemo memo ∧ memo.find? (l.groupingKey grouping) = some groups)
      fun _ => False := by
  refine ensures_groupsFor ?_ ?_ ?_
  · intro groups hfound
    refine ⟨?_, l.memo, rfl, hfound⟩
    rw [shownGroups, hfound]
    rfl
  · intro groups hmissing hgroups
    cases hfresh.symm.trans hgroups
    refine ⟨?_, _, rfl, GroupMemo.find?_insert_self _ _ _⟩
    rw [shownGroups, hmissing]
    rfl
  · intro e he
    cases hfresh.symm.trans he

/-- The view is narrowed to a group that can be filtered by. -/
theorem ensures_narrowed {group : Option Group} {post : Filter → Library → Prop}
    (hbasis : grouping.basis l.catalog = .ok basis)
    (hpost : post (narrowed basis l.layers.path filter group) l) :
    Ensures (narrowToGroup grouping filter group) l post fun _ => False := by
  have hgroupFilter : ∀ group, groupFilter l.catalog grouping l.layers.path group =
      .ok (basis.groupFilter l.layers.path group) := by
    intro group
    rw [groupFilter, hbasis]
    rfl
  refine ensures_narrowToGroup ?_ ?_ ?_
  · rintro rfl
    exact hpost
  · rintro group member rfl hmember
    cases (hgroupFilter group).symm.trans hmember
    exact hpost
  · rintro group e rfl he
    cases (hgroupFilter group).symm.trans he

/-- **A grouped view selects from the remembered groups**, and from those that are computed if
none are remembered. -/
theorem ensures_groupedRecords (hgrouping : l.layers.grouping = some grouping)
    (hfilter : l.filter = .ok filter) (hbasis : grouping.basis l.catalog = .ok basis)
    {fresh : List Group} (hfresh : l.freshGroups grouping = .ok fresh) :
    Ensures viewRecords l (fun answer l' =>
      answer = (l.narrowedRecords basis filter (l.shownGroups grouping fresh),
        some (l.shownGroups grouping fresh)) ∧
        l.Looked grouping (l.shownGroups grouping fresh) l') fun _ => False := by
  rw [freshGroups_eq hfilter] at hfresh
  refine ensures_groupedBy hgrouping hfilter ((ensures_shownGroups hfresh).imp ?_ fun _ h => h)
  rintro groups l' ⟨rfl, memo, rfl, hremembered⟩
  exact ensures_narrowed hbasis ⟨rfl, rfl, rfl, rfl, hremembered⟩

theorem ensures_groupedView (hgrouping : l.layers.grouping = some grouping)
    (hfilter : l.filter = .ok filter) (hbasis : grouping.basis l.catalog = .ok basis)
    {fresh : List Group} (hfresh : l.freshGroups grouping = .ok fresh) (request : PageRequest) :
    Ensures (view request) l (fun result l' =>
      result = l.narrowedView basis filter (l.shownGroups grouping fresh) request ∧
        l.Looked grouping (l.shownGroups grouping fresh) l') fun _ => False := by
  refine ensures_view ((ensures_groupedRecords hgrouping hfilter hbasis hfresh).imp ?_ fun _ h => h)
  rintro _ l' ⟨rfl, hlooked⟩
  refine ⟨?_, hlooked⟩
  rw [narrowedView, ← hlooked.layers]
  rfl

private theorem shows?_of_ensures {request : PageRequest} {post : ViewResult → Library → Prop}
    (h : Ensures (view request) l post fun _ => False) :
    ∃ result, l.shows? request = some result ∧ post result (l.after (.view request)) := by
  obtain ⟨result, l', hrun, hpost⟩ := h.exists_ok
  have hview : Leaves (view request) l fun l' =>
      ∃ result, l.shows? request = some result ∧ post result l' := by
    unfold shows? Leaves Ensures
    rw [hrun]
    exact ⟨result, rfl, hpost⟩
  have hprogram : Leaves (LibraryOperation.view request).program l _ := leaves_discard.mpr hview
  exact after_of_leaves hprogram

/-! ### Views of a sound library -/

/-- All that the groups of a view are computed from. -/
structure Grouped (l : Library) (grouping : Grouping) (basis : Basis) (filter : Filter)
    (fresh : List Group) : Prop where
  active : l.layers.grouping = some grouping
  filtered : l.filter = .ok filter
  based : grouping.basis l.catalog = .ok basis
  computed : groupsOn basis grouping l.layers.path (l.store.select filter) = fresh

namespace Grouped

variable {fresh : List Group}

theorem freshGroups_eq (h : l.Grouped grouping basis filter fresh) :
    l.freshGroups grouping = .ok fresh := by
  rw [Library.freshGroups_eq h.filtered, computeGroups, groupsOf, h.based, ← h.computed]
  rfl

theorem looked (h : l.Grouped grouping basis filter fresh) (request : PageRequest) :
    l.shows? request = some (l.narrowedView basis filter (l.shownGroups grouping fresh) request) ∧
      l.Looked grouping (l.shownGroups grouping fresh) (l.after (.view request)) := by
  obtain ⟨result, hshows, hresult, hlooked⟩ := shows?_of_ensures
    (ensures_groupedView h.active h.filtered h.based h.freshGroups_eq request)
  exact ⟨hresult ▸ hshows, hlooked⟩

/-- After a look at the view its groups are computed from the same. -/
theorem of_looked (h : l.Grouped grouping basis filter fresh) {groups : List Group}
    (hlooked : l.Looked grouping groups l') : l'.Grouped grouping basis filter fresh := by
  obtain ⟨hstore, hcatalog, hlayers, _⟩ := hlooked
  refine ⟨?_, ?_, ?_, ?_⟩
  · rw [hlayers]
    exact h.active
  · rw [Library.filter, hstore, hlayers]
    exact h.filtered
  · rw [hcatalog]
    exact h.based
  · rw [hstore, hlayers]
    exact h.computed

/-- **Looking at a view does not change what is shown next.** -/
theorem steady (h : l.Grouped grouping basis filter fresh) (request next : PageRequest) :
    (l.after (.view request)).shows? next = l.shows? next := by
  obtain ⟨_, hlooked⟩ := h.looked request
  have hgroups : (l.after (.view request)).shownGroups grouping fresh =
      l.shownGroups grouping fresh := by
    rw [shownGroups, hlooked.remembered]
    rfl
  rw [((h.of_looked hlooked).looked next).1, (h.looked next).1, hgroups]
  have hlayers := Parameters.clampGroup_of_clamped hlooked.layers
  rw [narrowedView, narrowedView, narrowedRecords, narrowedRecords, hlooked.store, hlayers]

end Grouped

/-- The groups of a view can always be computed. -/
theorem Sound.exists_grouped (h : l.Sound) (hgrouping : l.layers.grouping = some grouping) :
    ∃ basis filter fresh, l.Grouped grouping basis filter fresh := by
  obtain ⟨filter, hfilter⟩ := l.exists_filter
  obtain ⟨basis, hbasis⟩ := h.grouping grouping hgrouping
  exact ⟨basis, filter, _, hgrouping, hfilter, hbasis, rfl⟩

section

variable {fresh groups : List Group}

/-- Narrowed to a group, the view selects the members of the group. -/
theorem Sound.ids_select_narrowed (h : l.Sound) (hgrouped : l.Grouped grouping basis filter fresh)
    {group : Group} (hgroup : group ∈ fresh) :
    (l.store.select (narrowed basis l.layers.path filter (some group))).map (·.id) =
      group.ids := by
  have hfits : ∀ r ∈ l.store.select filter, basis.Fits r := by
    intro r hr
    have hr := h.store.mem_toList.mp (h.store.mem_select.mp hr).1
    exact (h.admitted r.id r hr).fits h.named hgrouped.based
  rw [← hgrouped.computed] at hgroup
  rw [ids_of_mem_groupsOn hfits hgroup, h.store.select_eq, h.store.select_eq, List.filter_filter]
  refine congrArg _ (List.filter_congr fun r _ => ?_)
  simp [narrowed, Filter.acceptsEach, Bool.and_comm]

/-- What is told about groups tells which records are members of the one that is chosen. -/
theorem Sound.ids_narrowedRecords (h : l.Sound) (hgrouped : l.Grouped grouping basis filter fresh)
    (hsummaries : groups.map Group.summary = fresh.map Group.summary) :
    ((l.narrowedRecords basis filter groups).map (·.id)).Perm
      (fresh[(l.parameters.clampGroup groups.length).layers.group.toNat]?.elim [] Group.ids) := by
  refine ((sortRecords_perm _ _).map (·.id)).trans (.of_eq ?_)
  generalize (l.parameters.clampGroup groups.length).layers.group.toNat = i
  have hchosen : groups[i]?.map Group.summary = fresh[i]?.map Group.summary := by
    rw [← List.getElem?_map, hsummaries, List.getElem?_map]
  cases hfresh : fresh[i]? with
  | none =>
      rw [hfresh] at hchosen
      rw [Option.map_eq_none_iff.mp hchosen, h.store.select_eq]
      simp [narrowed, Filter.accepts]
  | some group =>
      rw [hfresh] at hchosen
      -- The view filters by the group that it shows; only the summary is known to be the same.
      obtain ⟨group', hgroup', hsummary⟩ := Option.map_eq_some_iff.mp hchosen
      rw [hgroup']
      have hids := h.ids_select_narrowed hgrouped (List.mem_of_getElem? hfresh)
      rw [narrowed, ← Basis.groupFilter_congr basis _ hsummary] at hids
      exact hids

/-! ### Pages -/

/-- The pages of the view that is narrowed to one of some groups. -/
def narrowedPages (l : Library) (basis : Basis) (filter : Filter) (groups : List Group)
    (size : UInt64) : List ViewResult :=
  (List.range (pageCount (max size.toNat 1) (l.narrowedRecords basis filter groups).length)).map
    fun k => l.narrowedView basis filter groups { pageSize := size, pageNumber := UInt64.ofNat k }

/-- The records of a view are stored. -/
private theorem Sound.stored_of_mem (h : l.Sound) {r : Record}
    (hr : r ∈ l.narrowedRecords basis filter groups) : r ∈ l.store.toList := by
  exact (h.store.mem_select.mp ((sortRecords_perm _ _).mem_iff.mp hr)).1

/-- One after the other, the pages are the view. -/
private theorem Sound.flatMap_narrowedPages (h : l.Sound) (size : UInt64) :
    (l.narrowedPages basis filter groups size).flatMap (·.page.records) =
      l.narrowedRecords basis filter groups := by
  rw [narrowedPages, List.flatMap_map]
  exact flatMap_paginate _ none size (h.store.length_sortRecords_lt _ _)

/-- **The pages of a view show the members of the chosen group.** -/
theorem Sound.showsMembers (h : l.Sound) (hgrouped : l.Grouped grouping basis filter fresh)
    (hsummaries : (l.shownGroups grouping fresh).map Group.summary = fresh.map Group.summary)
    (size : UInt64) :
    l.ShowsMembers fresh size (l.narrowedPages basis filter (l.shownGroups grouping fresh) size)
      (l.parameters.clampGroup fresh.length).layers.group := by
  have hlength : (l.shownGroups grouping fresh).length = fresh.length := by
    simpa using congrArg List.length hsummaries
  have hmembers := h.ids_narrowedRecords hgrouped hsummaries
  rw [hlength] at hmembers
  refine ⟨?_, ?_, ?_, ?_, ?_, ?_⟩
  · rw [narrowedPages, List.length_map, List.length_range, List.map_map]
    exact List.map_congr_left fun k _ => (hgrouped.looked _).1
  · have hpos := pageCount_pos (max size.toNat 1)
      (l.narrowedRecords basis filter (l.shownGroups grouping fresh)).length
    intro hnil
    have hlength := congrArg List.length hnil
    rw [narrowedPages, List.length_map, List.length_range, List.length_nil] at hlength
    omega
  · intro result hresult
    obtain ⟨k, _, rfl⟩ := List.mem_map.mp hresult
    refine ⟨?_, ?_⟩
    · rw [narrowedPages, List.length_map, List.length_range]
      rfl
    · rw [← hlength]
      rfl
  · exact fun hne => l.parameters.clampGroup_lt (List.length_pos_iff.mpr hne)
  · rw [h.flatMap_narrowedPages]
    exact hmembers
  · rw [h.flatMap_narrowedPages]
    exact fun r hr => h.store.mem_toList.mp (h.stored_of_mem hr)

end

/-! ### Groups as they are now -/

/-- **A view shows the groups as they are now if and only if those that it remembers are up to
date.** -/
theorem Grouped.showsGroups_iff {fresh : List Group}
    (hgrouped : l.Grouped grouping basis filter fresh) (h : l.Sound) :
    l.ShowsGroups fresh ↔ l.RemembersFresh := by
  have hfresh : l.freshSummaries grouping = .ok (fresh.map Group.summary) := by
    rw [freshSummaries, hgrouped.freshGroups_eq]
    rfl
  constructor
  · -- Any view tells about the groups that are remembered, the first page among them.
    intro hshows grouping' groups hgrouping hfound
    cases hgrouped.active.symm.trans hgrouping
    obtain ⟨result, hresult, htold⟩ := hshows.told {} rfl
    rw [(hgrouped.looked {}).1] at hresult
    obtain rfl := Option.some.inj hresult
    have hshown : l.shownGroups grouping fresh = groups := by
      rw [shownGroups, hfound]
      rfl
    have htold : some ((l.shownGroups grouping fresh).map Group.summary) = _ := htold
    rw [hshown] at htold
    rw [hfresh, ← Option.some.inj htold]
  · intro hremembers
    have hsummaries : (l.shownGroups grouping fresh).map Group.summary =
        fresh.map Group.summary := by
      unfold shownGroups
      cases hfound : l.memo.find? (l.groupingKey grouping) with
      | none => rfl
      | some groups =>
          have hremembered := hremembers grouping groups hgrouped.active hfound
          exact (Except.ok.inj (hfresh.symm.trans hremembered)).symm
    refine ⟨fun request _ => ?_, hgrouped.steady, fun size => ?_⟩
    · exact ⟨_, (hgrouped.looked request).1, congrArg some hsummaries⟩
    · exact ⟨_, _, h.showsMembers hgrouped hsummaries size⟩

/-! ### Runs -/

/-- No operation of a run disturbs the view. -/
def Undisturbed (l : Library) : List LibraryOperation → Prop
  | [] => True
  | operation :: rest => ¬l.Disturbs operation ∧ (l.after operation).Undisturbed rest

private theorem remembersFresh_foldl (operations : List LibraryOperation) :
    ∀ l : Library, l.Sound → l.RemembersFresh → l.Undisturbed operations →
      (operations.foldl after l).RemembersFresh := by
  induction operations with
  | nil => exact fun l _ hl _ => hl
  | cons operation rest ih =>
      intro l h hl hundisturbed
      exact ih _ (h.after operation) (hl.after h hundisturbed.1) hundisturbed.2

/-- A run that does not disturb the view keeps its groups up to date. -/
theorem remembersFresh_afterAll {operations : List LibraryOperation}
    (h : empty.Undisturbed operations) : (afterAll operations).RemembersFresh :=
  remembersFresh_foldl operations empty sound_empty (remembersFresh_of_forgotten rfl) h

/-- Looking at a view does not disturb it. -/
private theorem not_disturbs_view (l : Library) (request : PageRequest) :
    ¬l.Disturbs (.view request) :=
  fun h => h.1

private theorem grouping_after_view (l : Library) (request : PageRequest) :
    (l.after (.view request)).layers.grouping = l.layers.grouping := by
  have hleaves : Leaves (LibraryOperation.view request).program l l.Seen :=
    leaves_discard.mpr ((leaves_view l request).imp (fun _ _ h => h) fun _ h => h)
  have hseen : l.Seen (l.after (.view request)) := after_of_leaves hleaves
  generalize l.after (.view request) = l' at hseen ⊢
  cases hseen <;> rfl

/-- Once a view was looked at, it stays up to date exactly if it is not disturbed. -/
theorem remembersFresh_after_iff (h : l.Sound) (hl : l.RemembersFresh) (request : PageRequest)
    (operation : LibraryOperation) :
    ((l.after (.view request)).after operation).RemembersFresh ↔
      ¬(l.after (.view request)).Disturbs operation := by
  have hl' := hl.after h (l.not_disturbs_view request)
  refine ⟨fun hafter hdisturbs => ?_, hl'.after (h.after _)⟩
  refine hdisturbs.not_remembersFresh hl' (fun grouping hgrouping => ?_) hafter
  have hsame : l.layers.grouping = some grouping :=
    (l.grouping_after_view request).symm.trans hgrouping
  obtain ⟨basis, filter, fresh, hgrouped⟩ := h.exists_grouped hsame
  exact ⟨_, (hgrouped.looked request).2.remembered⟩

/-- **When a view shows the groups as they are now.**  After any run, refused operations
included, a grouped view shows the groups as they are now, and over its pages the members of
the chosen one, if and only if the groups that it remembers are up to date.  They are as long
as no operation disturbs the view, and an operation on a view that was looked at leaves them so
if and only if it does not disturb it.  Only two operations may disturb a view: an import that
is refused, and setting the values of a property that the view is not grouped by while it is
searched. -/
theorem shows_groups_iff_undisturbed (operations : List LibraryOperation) :
    let l := afterAll operations
    (∀ grouping, l.layers.grouping = some grouping →
        ∃ fresh, l.freshGroups grouping = .ok fresh ∧ (l.ShowsGroups fresh ↔ l.RemembersFresh)) ∧
      (empty.Undisturbed operations → l.RemembersFresh) ∧
      (l.RemembersFresh → ∀ request operation,
        ((l.after (.view request)).after operation).RemembersFresh ↔
          ¬(l.after (.view request)).Disturbs operation) ∧
      ∀ operation, l.Disturbs operation →
        (∃ records e l', operation = .importRecords records ∧
            importRecords records l = .error e l') ∨
          ∃ ids property raw, operation = .setTag ids property raw ∧
            l.parameters.groupsBy property true = false ∧ l.layers.search ≠ none := by
  intro l
  have h : l.Sound := sound_afterAll operations
  refine ⟨fun grouping hgrouping => ?_, remembersFresh_afterAll, ?_, fun operation => ?_⟩
  · obtain ⟨basis, filter, fresh, hgrouped⟩ := h.exists_grouped hgrouping
    exact ⟨fresh, hgrouped.freshGroups_eq, hgrouped.showsGroups_iff h⟩
  · exact fun hl => remembersFresh_after_iff h hl
  · exact fun hdisturbs => hdisturbs.cases h

/-- A view of all records by their container that was not looked at yet. -/
theorem shows_groups_by_container :
    let container : Grouping :=
      { field := "container_format", isProperty := false, allowSingletons := true }
    let operations : List LibraryOperation :=
      [.importRecords [{ path := "/a.mkv", containerFormat := "mkv" }],
        .setGrouping (some container)]
    ∃ fresh, (afterAll operations).freshGroups container = .ok fresh ∧
      (afterAll operations).ShowsGroups fresh := by
  intro container operations
  obtain ⟨hgroups, hundisturbed, _⟩ := shows_groups_iff_undisturbed operations
  have hgrouping : (afterAll operations).layers.grouping = some container := by decide +kernel
  have hnone : empty.layers.grouping = none := rfl
  have hrun : empty.Undisturbed operations := by
    refine ⟨fun hdisturbs => ?_, fun hdisturbs => hdisturbs.1, trivial⟩
    obtain ⟨_, grouping, hactive, _⟩ := hdisturbs
    cases hnone.symm.trans hactive
  obtain ⟨fresh, hfresh, hshows⟩ := hgroups container hgrouping
  exact ⟨fresh, hfresh, hshows.mpr (hundisturbed hrun)⟩

/-- Values that are searched for are set in a record, which comes into the view and makes a
group, and the view goes on telling that there are no groups. -/
theorem searched_view_shows_old_groups :
    let container : Grouping :=
      { field := "container_format", isProperty := false, allowSingletons := true }
    let searched : List LibraryOperation :=
      [.defineProperty "mood" .str true none none,
        .importRecords [{ path := "/a.mkv", containerFormat := "mkv" }],
        .setSearch (some { text := "calm", condition := .and }), .setGrouping (some container)]
    let operations := searched ++ [.view {}, .setTag [1] "mood" [.str "calm"]]
    ∃ fresh, (afterAll operations).freshGroups container = .ok fresh ∧
      ¬(afterAll operations).ShowsGroups fresh := by
  intro container searched operations
  have hforgotten : (afterAll searched).memo.entries = [] := by decide +kernel
  have hother : ((afterAll searched).after (.view {})).parameters.groupsBy "mood" true = false := by
    decide +kernel
  have hactive : ((afterAll searched).after (.view {})).layers.grouping = some container := by
    decide +kernel
  have hgrouping : (afterAll operations).layers.grouping = some container := by decide +kernel
  let told (l : Library) := (l.freshSummaries container).toOption.map List.length
  have hcount : told (afterAll operations) ≠ told ((afterAll searched).after (.view {})) := by
    decide +kernel
  have hoperations : afterAll operations =
      ((afterAll searched).after (.view {})).after (.setTag [1] "mood" [.str "calm"]) := by
    rw [afterAll_append, List.foldl_cons, List.foldl_cons, List.foldl_nil]
  have h := sound_afterAll operations
  obtain ⟨basis, filter, fresh, hgrouped⟩ := h.exists_grouped hgrouping
  refine ⟨fresh, hgrouped.freshGroups_eq, fun hshows => ?_⟩
  have hafter := (hgrouped.showsGroups_iff h).mp hshows
  rw [hoperations] at hafter hcount
  have hstays := remembersFresh_after_iff (sound_afterAll searched)
    (remembersFresh_of_forgotten hforgotten) {} (.setTag [1] "mood" [.str "calm"])
  -- From here on it does not matter which library this is, and it must not be computed again.
  generalize (afterAll searched).after (.view {}) = l at *
  refine hstays.mp hafter ⟨hother, container, hactive, fun hsame => hcount ?_⟩
  exact congrArg (fun summaries => summaries.toOption.map List.length) hsame

end Library

end MediaLibrary
