/-
What a column shows.

The pages of a view cut its selection into pieces, and a column goes through the same selection
as a whole.  Both have to find the records of the view first, and finding them may change the
library: the choice of a group is moved into range, and groups that were computed are
remembered.  What is asked for later is therefore asked of another library.

`SettlesOn` says that it does not matter.  The first look at a view settles what it shows, and
every later look finds the same and changes nothing.  So pages and columns are made of the same
records, in whatever order they are asked for.
-/
import MediaLibrary.Proofs.Library.Answered

namespace MediaLibrary

/-- The operation only looks at the view. -/
def LibraryOperation.looks : LibraryOperation → Bool
  | .view _ => true
  | .column _ _ => true
  | _ => false

namespace Library

variable {l l' : Library} {grouping : Grouping} {basis : Basis} {filter : Filter}
  {records : List Record} {groups : Option (List Group)} {selector : Option Selector}
  {field : Field}

/-- The values of a field that the library tells, unless it refuses to. -/
def tells? (l : Library) (selector : Option Selector) (field : Field) :
    Option (List FieldValue) :=
  match LibraryM.column selector field l with
  | .ok values _ => some values
  | .error _ _ => none

/-- The values of a field are those of the records that all pages of one size show. -/
structure ShowsColumn (l : Library) (selector : Option Selector) (size : UInt64) (field : Field)
    (pages : List ViewResult) (values : List FieldValue) : Prop where
  /-- They are the pages that the library shows. -/
  shown : ∀ k page, pages[k]? = some page →
    l.shows? ⟨size, UInt64.ofNat k, selector⟩ = some page
  /-- They are all pages of that size. -/
  counted : ∀ page ∈ pages, page.page.pageCount = pages.length
  nonempty : pages ≠ []
  /-- There is a number for each of them. -/
  numbered : pages.length < UInt64.size
  told : l.tells? selector field = some values
  joined : values = pages.flatMap fun page => page.page.records.map field.valueOf

open LibraryM

/-! ### Looking again -/

/-- What looking at a view finds, and the library that it leaves. -/
structure SettlesOn (l : Library) (records : List Record) (groups : Option (List Group))
    (l' : Library) : Prop where
  found : viewRecords l = .ok (records, groups) l'
  /-- Looking again finds the same and changes nothing. -/
  again : viewRecords l' = .ok (records, groups) l'
  /-- There is a number for each page. -/
  numbered : max records.length 1 < UInt64.size

/-- Where groups are remembered and one of them is chosen, nothing is left to be changed. -/
private theorem Grouped.ensures_remembered {fresh groups : List Group}
    (h : l.Grouped grouping basis filter fresh)
    (hremembered : l.memo.find? (l.groupingKey grouping) = some groups)
    (hclamped : (l.parameters.clampGroup groups.length).layers = l.layers) :
    Ensures viewRecords l (fun answer l' =>
      answer = (l.narrowedRecords basis filter groups, some groups) ∧ l' = l) fun _ => False := by
  have hchosen : l.parameters.clampGroup groups.length = l.parameters := by
    show (⟨(l.parameters.clampGroup groups.length).layers, l.parameters.caches⟩ : Parameters _) = _
    rw [hclamped]
    rfl
  have hcomputed : l.computeGroups grouping filter = .ok fresh :=
    (Library.freshGroups_eq h.filtered grouping).symm.trans h.freshGroups_eq
  refine ensures_groupedBy h.active h.filtered (ensures_groupsFor ?_ ?_ ?_)
  · intro found hfound
    cases hremembered.symm.trans hfound
    dsimp only
    rw [narrowedRecords, hchosen]
    exact ensures_narrowed h.based ⟨rfl, rfl⟩
  · intro found hmissing _
    cases hremembered.symm.trans hmissing
  · intro e he
    cases hcomputed.symm.trans he

/-- **The first look settles what a grouped view shows.** -/
private theorem Sound.settlesOn_grouped (h : l.Sound) {fresh : List Group}
    (hgrouped : l.Grouped grouping basis filter fresh) :
    ∃ records groups l', l.SettlesOn records groups l' := by
  obtain ⟨_, l', hfound, rfl, hlooked⟩ := (ensures_groupedRecords hgrouped.active
    hgrouped.filtered hgrouped.based hgrouped.freshGroups_eq).exists_ok
  have hclamped := Parameters.clampGroup_of_clamped hlooked.layers
  obtain ⟨_, again, hagain, rfl, hsame⟩ := ((hgrouped.of_looked hlooked).ensures_remembered
    hlooked.remembered (hclamped.trans hlooked.layers.symm)).exists_ok
  rw [hsame, narrowedRecords, hclamped, hlooked.store] at hagain
  refine ⟨_, _, l', hfound, hagain, ?_⟩
  exact h.store.length_sortRecords_lt _ _

/-- **The first look settles what a view shows.** -/
theorem Sound.exists_settlesOn (h : l.Sound) :
    ∃ records groups l', l.SettlesOn records groups l' := by
  cases hgrouping : l.layers.grouping with
  | some grouping =>
      obtain ⟨basis, filter, fresh, hgrouped⟩ := h.exists_grouped hgrouping
      exact h.settlesOn_grouped hgrouped
  | none =>
      obtain ⟨filter, hfilter⟩ := l.exists_filter
      obtain ⟨_, _, hfound, rfl, rfl⟩ := (ensures_plainRecords hgrouping hfilter).exists_ok
      exact ⟨_, _, _, hfound, hfound, h.store.length_sortRecords_lt _ filter⟩

namespace SettlesOn

/-- What is left does not change any more. -/
theorem settled (h : l.SettlesOn records groups l') : l'.SettlesOn records groups l' :=
  ⟨h.again, h.again, h.numbered⟩

theorem ensures_viewRecords (h : l.SettlesOn records groups l') {refused : Library → Prop}
    {post : List Record × Option (List Group) → Library → Prop}
    (hpost : post (records, groups) l') :
    Ensures viewRecords l post refused := by
  unfold Ensures
  rw [h.found]
  exact hpost

/-- One page of the records that were found. -/
theorem view_eq (h : l.SettlesOn records groups l') (request : PageRequest) :
    view request l =
      .ok ⟨paginate records request, l'.layers, groups.map (·.map Group.summary)⟩ l' := by
  have hview : Ensures (view request) l (fun result after =>
      result = ⟨paginate records request, l'.layers, groups.map (·.map Group.summary)⟩ ∧
        after = l') fun _ => False := by
    exact ensures_view (h.ensures_viewRecords ⟨rfl, rfl⟩)
  obtain ⟨_, _, hrun, rfl, rfl⟩ := hview.exists_ok
  exact hrun

/-- One field of the records that were found. -/
theorem column_eq (h : l.SettlesOn records groups l') (hfield : field.spansColumns = false)
    (selector : Option Selector) :
    LibraryM.column selector field l =
      .ok ((selectRecords selector records).map field.valueOf) l' := by
  have hvalues : MediaLibrary.column records selector field =
      .ok ((selectRecords selector records).map field.valueOf) := by
    rw [MediaLibrary.column, hfield]
    rfl
  have hcolumn : Ensures (LibraryM.column selector field) l (fun values after =>
      values = (selectRecords selector records).map field.valueOf ∧ after = l') fun _ => False := by
    refine ensures_column (h.ensures_viewRecords ⟨fun values hchecked => ?_, ?_⟩)
    · cases hvalues.symm.trans hchecked
      exact ⟨rfl, rfl⟩
    · intro e he
      cases hvalues.symm.trans he
  obtain ⟨_, _, hrun, rfl, rfl⟩ := hcolumn.exists_ok
  exact hrun

theorem shows?_eq (h : l.SettlesOn records groups l') (request : PageRequest) :
    l.shows? request =
      some ⟨paginate records request, l'.layers, groups.map (·.map Group.summary)⟩ := by
  rw [shows?, h.view_eq]

theorem tells?_eq (h : l.SettlesOn records groups l') (selector : Option Selector)
    (field : Field) :
    l.tells? selector field =
      if field.spansColumns then none
      else some ((selectRecords selector records).map field.valueOf) := by
  cases hfield : field.spansColumns with
  | false =>
      rw [tells?, h.column_eq hfield]
      rfl
  | true =>
      have hrefused : Ensures (LibraryM.column selector field) l (fun _ _ => False)
          fun _ => True := by
        refine ensures_column (h.ensures_viewRecords ⟨fun values hvalues => ?_, ?_⟩)
        · rw [MediaLibrary.column, hfield] at hvalues
          cases hvalues
        · exact fun _ _ => trivial
      unfold tells?
      split
      · rename_i hrun
        exact (hrefused.of_ok hrun).elim
      · rfl

/-! ### Looking any number of times -/

/-- Whatever is looked at leaves the same library, be it answered or refused. -/
theorem after_of_looks (h : l.SettlesOn records groups l') {look : LibraryOperation}
    (hlook : look.looks = true) : l.after look = l' := by
  have hleaves : Leaves look.program l fun after => after = l' := by
    cases look with
    | view request =>
        exact leaves_discard.mpr (ensures_view (h.ensures_viewRecords rfl))
    | column selector field =>
        refine leaves_discard.mpr (ensures_column (h.ensures_viewRecords ⟨?_, ?_⟩))
        · exact fun _ _ => rfl
        · exact fun _ _ => rfl
    | _ => cases hlook
  exact after_of_leaves hleaves

/-- **What was settled by a first look is found after any number of looks.** -/
theorem foldl_after (looks : List LibraryOperation) (hlooks : ∀ look ∈ looks, look.looks = true) :
    ∀ {l : Library}, l.SettlesOn records groups l' →
      (looks.foldl after l).SettlesOn records groups l' := by
  induction looks with
  | nil => exact fun h => h
  | cons look rest ih =>
      intro l h
      rw [List.foldl_cons, h.after_of_looks (hlooks look List.mem_cons_self)]
      exact ih (fun other hother => hlooks other (List.mem_cons_of_mem look hother)) h.settled

/-! ### Pages -/

/-- All pages of one size, with the layers and the groups that come with them. -/
def pages (records : List Record) (groups : Option (List Group)) (layers : Layers)
    (selector : Option Selector) (size : UInt64) : List ViewResult :=
  (List.range (pageCount (max size.toNat 1) (selectRecords selector records).length)).map fun k =>
    ⟨paginate records ⟨size, UInt64.ofNat k, selector⟩, layers,
      groups.map (·.map Group.summary)⟩

/-- **The pages of one size show the records of the column.** -/
theorem showsColumn (h : l.SettlesOn records groups l') (hfield : field.spansColumns = false)
    (selector : Option Selector) (size : UInt64) :
    l.ShowsColumn selector size field (pages records groups l'.layers selector size)
      ((selectRecords selector records).map field.valueOf) := by
  have hlength : (pages records groups l'.layers selector size).length =
      pageCount (max size.toNat 1) (selectRecords selector records).length := by
    rw [pages, List.length_map, List.length_range]
  constructor
  case shown =>
    intro k page hpage
    rw [pages, List.getElem?_map] at hpage
    obtain ⟨number, hnumber, rfl⟩ := Option.map_eq_some_iff.mp hpage
    obtain ⟨_, rfl⟩ := List.getElem?_eq_some_iff.mp hnumber
    rw [List.getElem_range]
    exact h.shows?_eq _
  case counted =>
    intro page hpage
    obtain ⟨k, _, rfl⟩ := List.mem_map.mp hpage
    exact hlength.symm
  case nonempty =>
    rw [← List.length_pos_iff, hlength]
    exact pageCount_pos _ _
  case numbered =>
    rw [hlength]
    exact pageCount_lt_size h.numbered size
  case told =>
    rw [h.tells?_eq, hfield]
    rfl
  case joined =>
    rw [pages, List.flatMap_map, ← List.map_flatMap]
    exact congrArg _ (flatMap_paginate records selector size h.numbered).symm

end SettlesOn

/-- **A column shows what the pages show.**  After any run, refused operations included, with a
grouping and a path or without, a field that does not span columns has the values that it has in
the records of all pages of one size, one page after the other.  Looking at the view does not
change this: whatever pages and columns have been asked for, the same pages and the same
columns are shown. -/
theorem column_shows_what_pages_show (operations : List LibraryOperation)
    (selector : Option Selector) (size : UInt64) (field : Field)
    (hfield : field.spansColumns = false) :
    let l := afterAll operations
    (∃ pages values, l.ShowsColumn selector size field pages values) ∧
      ∀ looks : List LibraryOperation, (∀ look ∈ looks, look.looks = true) →
        (∀ request, (looks.foldl after l).shows? request = l.shows? request) ∧
          ∀ selector field,
            (looks.foldl after l).tells? selector field = l.tells? selector field := by
  intro l
  obtain ⟨records, groups, l', h⟩ := (sound_afterAll operations).exists_settlesOn
  refine ⟨⟨_, _, h.showsColumn hfield selector size⟩, fun looks hlooks => ?_⟩
  have hlooked := SettlesOn.foldl_after looks hlooks h
  refine ⟨fun request => ?_, fun selector field => ?_⟩
  · rw [hlooked.shows?_eq, h.shows?_eq]
  · rw [hlooked.tells?_eq, h.tells?_eq]

/-- Of three calm files one is loud too, and it is in the last group. -/
theorem column_shows_loud_size :
    let mood : Grouping := { field := "mood", isProperty := true, allowSingletons := true }
    let calm : Properties := .ofList [("mood", [.str "calm"])] compare
    let both : Properties := .ofList [("mood", [.str "calm", .str "loud"])] compare
    let operations : List LibraryOperation :=
      [.defineProperty "mood" .str true none none,
        .importRecords [{ path := "/a.mkv", size := 3, properties := calm },
          { path := "/b.mkv", size := 5, properties := calm },
          { path := "/c.mkv", size := 7, properties := both }],
        .setGrouping (some mood), .classifierPush (.str "calm"), .setGroup 9]
    let chosen : Selector := .exclude (.ofList [2] compare)
    Field.size.spansColumns = false ∧
      ∃ pages, (afterAll operations).ShowsColumn (some chosen) 2 .size pages [.size 7] := by
  intro mood calm both operations chosen
  have hspans : Field.size.spansColumns = false := rfl
  have htold : (afterAll operations).tells? (some chosen) .size = some [.size 7] := by
    decide +kernel
  obtain ⟨⟨pages, values, hshows⟩, _⟩ :=
    column_shows_what_pages_show operations (some chosen) 2 .size hspans
  cases hshows.told.symm.trans htold
  exact ⟨hspans, pages, hshows⟩

end Library

end MediaLibrary
