/-
What a view without groups shows.

A view that is not grouped remembers nothing and changes nothing: it selects the records anew,
sorts them and cuts out a page.  `ShowsRecords` says, without filters, plans and indices, what
all its pages of one size show together: the stored records that come from the sources, are
searched for and are chosen by the selector, each of them once and in the order of the sort
keys.  It holds of every library that can be reached, with whatever layers, since every such
library is sound.
-/
import MediaLibrary.Proofs.Library.Sound
import MediaLibrary.Proofs.Query.Search
import MediaLibrary.Proofs.Store.Plan
import MediaLibrary.Proofs.View.Page
import MediaLibrary.Proofs.View.Sort

namespace MediaLibrary

/-- The record comes from the sources, is searched for and is chosen by the selector. -/
structure Layers.Wants (layers : Layers) (selector : Option Selector) (r : Record) : Prop where
  source : FromSources layers.sources r
  search : SearchedFor layers.search r
  selected : ∀ s ∈ selector, s.selects r.id = true

namespace Library

variable {l : Library} {filter : Filter} {selector : Option Selector} {size : UInt64}

/-- The library that shows its records through other layers. -/
def withLayers (l : Library) (layers : Layers) : Library :=
  { l with parameters.layers := layers }

/-- Some pages of one size show the records that are wanted. -/
structure ShowsRecords (l : Library) (selector : Option Selector) (size : UInt64)
    (pages : List ViewResult) : Prop where
  /-- They are the pages that the library shows, which is not changed by it. -/
  shown : ∀ k page, pages[k]? = some page →
    LibraryM.view ⟨size, UInt64.ofNat k, selector⟩ l = .ok page l
  /-- They are all pages of that size. -/
  counted : ∀ result ∈ pages, result.page.pageCount = pages.length
  nonempty : pages ≠ []
  /-- There is a number for each of them. -/
  numbered : pages.length < UInt64.size
  /-- The records are shown as they are stored. -/
  listed : ∀ r, r ∈ pages.flatMap (·.page.records) ↔
    l.store.get? r.id = some r ∧ l.layers.Wants selector r
  /-- No record is shown twice. -/
  once : ((pages.flatMap (·.page.records)).map (·.id)).Nodup
  ordered : (pages.flatMap (·.page.records)).Pairwise (Precedes l.layers.sort)

open LibraryM

/-- The records that a filter accepts, in the order of the view. -/
def sortedRecords (l : Library) (filter : Filter) : List Record :=
  sortRecords l.layers.sort (l.store.select filter)

/-- The view without groups. -/
def plainView (l : Library) (filter : Filter) (request : PageRequest) : ViewResult :=
  ⟨paginate (l.sortedRecords filter) request, l.layers, none⟩

/-- **A view without groups is never refused and changes nothing.** -/
theorem ensures_plainRecords (hgrouping : l.layers.grouping = none)
    (hfilter : l.filter = .ok filter) :
    Ensures viewRecords l (fun answer l' => answer = (l.sortedRecords filter, none) ∧ l' = l)
      fun _ => False := by
  unfold viewRecords
  refine ensures_bind.mpr (ensures_get.mpr (ensures_bind.mpr ?_))
  refine ensures_check (fun filter' hfilter' => ?_) fun e he => by cases hfilter.symm.trans he
  cases hfilter.symm.trans hfilter'
  refine ensures_bind.mpr (ensures_get.mpr ?_)
  dsimp only
  rw [hgrouping]
  exact ⟨rfl, rfl⟩

theorem view_of_ungrouped (hgrouping : l.layers.grouping = none) (hfilter : l.filter = .ok filter)
    (request : PageRequest) : view request l = .ok (l.plainView filter request) l := by
  have hview : Ensures (view request) l
      (fun result l' => result = l.plainView filter request ∧ l' = l) fun _ => False := by
    refine ensures_view ((ensures_plainRecords hgrouping hfilter).imp ?_ fun _ h => h)
    rintro _ _ ⟨rfl, rfl⟩
    exact ⟨rfl, rfl⟩
  obtain ⟨result, l', hrun, rfl, rfl⟩ := hview.exists_ok
  exact hrun

/-! ### Selected records -/

/-- **The records that are selected are those that are wanted.** -/
theorem mem_selected (h : l.store.Sound) (hfilter : l.filter = .ok filter) {r : Record} :
    r ∈ selectRecords selector (l.sortedRecords filter) ↔
      l.store.get? r.id = some r ∧ l.layers.Wants selector r := by
  rw [mem_selectRecords, sortedRecords, (sortRecords_perm _ _).mem_iff, h.mem_select]
  constructor
  · rintro ⟨⟨hr, haccepts⟩, hselected⟩
    obtain ⟨hsource, hsearch⟩ := (h.accepts_viewFilter hr hfilter).mp haccepts
    exact ⟨h.mem_toList.mp hr, hsource, hsearch, hselected⟩
  · rintro ⟨hstored, hsource, hsearch, hselected⟩
    have hr := h.mem_toList.mpr hstored
    exact ⟨⟨hr, (h.accepts_viewFilter hr hfilter).mpr ⟨hsource, hsearch⟩⟩, hselected⟩

/-! ### Pages -/

/-- The pages of one size of the view without groups. -/
def plainPages (l : Library) (filter : Filter) (selector : Option Selector) (size : UInt64) :
    List ViewResult :=
  let selection := selectRecords selector (l.sortedRecords filter)
  (List.range (pageCount (max size.toNat 1) selection.length)).map fun k =>
    l.plainView filter ⟨size, UInt64.ofNat k, selector⟩

/-- One after the other, the pages are what is selected. -/
private theorem flatMap_plainPages (h : l.store.Sound) :
    (l.plainPages filter selector size).flatMap (·.page.records) =
      selectRecords selector (l.sortedRecords filter) := by
  rw [plainPages, List.flatMap_map]
  exact flatMap_paginate _ selector size (h.length_sortRecords_lt _ filter)

/-- **The pages of a view without groups show the records that are wanted.** -/
theorem showsRecords (h : l.store.Sound) (hgrouping : l.layers.grouping = none)
    (hfilter : l.filter = .ok filter) (selector : Option Selector) (size : UInt64) :
    l.ShowsRecords selector size (l.plainPages filter selector size) := by
  have hlength : (l.plainPages filter selector size).length =
      pageCount (max size.toNat 1) (selectRecords selector (l.sortedRecords filter)).length := by
    rw [plainPages, List.length_map, List.length_range]
  have hselected := selectRecords_sublist selector (l.sortedRecords filter)
  have hdistinct : (l.store.select filter).Pairwise (·.id ≠ ·.id) :=
    (h.select_ascending filter).imp fun hlt => UInt64.ne_of_lt hlt
  constructor
  case shown =>
    intro k page hpage
    rw [plainPages, List.getElem?_map] at hpage
    obtain ⟨number, hnumber, rfl⟩ := Option.map_eq_some_iff.mp hpage
    obtain ⟨_, rfl⟩ := List.getElem?_eq_some_iff.mp hnumber
    rw [List.getElem_range]
    exact view_of_ungrouped hgrouping hfilter _
  case counted =>
    intro result hresult
    obtain ⟨k, _, rfl⟩ := List.mem_map.mp hresult
    exact hlength.symm
  case nonempty =>
    rw [← List.length_pos_iff, hlength]
    exact pageCount_pos _ _
  case numbered =>
    rw [hlength]
    exact pageCount_lt_size (h.length_sortRecords_lt _ filter) size
  case listed =>
    rw [flatMap_plainPages h]
    exact fun r => mem_selected h hfilter
  case once =>
    rw [flatMap_plainPages h]
    have honce : (l.sortedRecords filter).Pairwise (·.id ≠ ·.id) := sortRecords_distinct _ hdistinct
    exact List.pairwise_map.mpr (honce.sublist hselected)
  case ordered =>
    rw [flatMap_plainPages h]
    exact (pairwise_sortRecords l.layers.sort hdistinct).sublist hselected

/-- **What a view without groups shows.**  After any run, refused operations included, and with
any layers that do not group, be they set by the run or not, no page of the view is refused.
One after the other, its pages of one size show the stored records that come from one of the
sources, are searched for and are chosen by the selector: each of them once, in the order of
the sort keys and then of the identifiers. -/
theorem ungrouped_view_shows_records (operations : List LibraryOperation) (layers : Layers)
    (hgrouping : layers.grouping = none) (selector : Option Selector) (size : UInt64) :
    ∃ pages, ((afterAll operations).withLayers layers).ShowsRecords selector size pages := by
  have h : ((afterAll operations).withLayers layers).store.Sound :=
    (sound_afterAll operations).store
  obtain ⟨filter, hfilter⟩ := ((afterAll operations).withLayers layers).exists_filter
  exact ⟨_, showsRecords h hgrouping hfilter selector size⟩

/-- A text in capitals and between blanks is found in the one record that has it in small
letters. -/
theorem view_of_a_night_shows_the_night :
    let day : Record := { id := 1, path := "/a/day.mkv" }
    let night : Record := { id := 2, path := "/a/night.mkv" }
    let operations : List LibraryOperation :=
      [.importRecords [{ path := "/a/day.mkv" }, { path := "/a/night.mkv" }]]
    let layers : Layers :=
      { Layers.default with
        sources := [⟨[.discarded]⟩, ⟨[.found, .withoutThumbnails]⟩]
        search := some ⟨" NIGHT ", .exact⟩ }
    let l := (afterAll operations).withLayers layers
    ∃ pages, l.ShowsRecords (some (.exclude ∅)) 1 pages ∧
      night ∈ pages.flatMap (·.page.records) ∧ day ∉ pages.flatMap (·.page.records) := by
  intro day night operations layers l
  obtain ⟨pages, hpages⟩ :=
    ungrouped_view_shows_records operations layers rfl (some (.exclude ∅)) 1
  refine ⟨pages, hpages, (hpages.listed night).mpr ⟨?_, ?_, ?_, ?_⟩, fun hday => ?_⟩
  · show (afterAll operations).store.get? 2 = some night
    decide +kernel
  · show FromSources layers.sources night
    decide
  · show SearchedFor layers.search night
    decide +kernel
  · show ∀ s ∈ some (Selector.exclude ∅), s.selects 2 = true
    decide
  · have hsearch : ¬SearchedFor layers.search day := by decide +kernel
    exact hsearch ((hpages.listed day).mp hday).2.search

end Library

end MediaLibrary
