/-
What asking for a view does.

Looking at a view changes little: which group is looked at may be moved into range, and
groups that had to be computed are remembered.  `Seen` says so for all the operations that
look at a view.  Following a path of values changes the layers by `withPath`, however the
path was given.
-/
import MediaLibrary.Proofs.Checked
import MediaLibrary.Proofs.Library.Run
import MediaLibrary.Proofs.View.Path

namespace MediaLibrary

namespace TermIndex

/-- An index that never fails makes a filter of every search. -/
theorem exists_viewFilter {index : TermIndex}
    (hindex : ∀ terms mode, ∃ ids, index terms mode = .ok ids) (sources : List SourcePath)
    (search : Option Search) :
    ∃ filter, index.viewFilter sources search = .ok filter := by
  have htext : ∀ text mode, ∃ filter, index.textFilter text mode = .ok filter := by
    intro text mode
    unfold textFilter
    split
    · exact ⟨_, rfl⟩
    · rename_i terms _
      obtain ⟨ids, hids⟩ := hindex (Text.terms text) mode
      exact ⟨.idIn ids, by rw [hids]; rfl⟩
  have hsearch : ∃ filter, index.searchFilter search = .ok filter := by
    unfold searchFilter
    split
    · exact ⟨_, rfl⟩
    · split
      · exact ⟨_, rfl⟩
      · dsimp only
        split
        · split <;> exact ⟨_, rfl⟩
        · exact htext _ _
        · exact htext _ _
        · obtain ⟨filter, hfilter⟩ := htext (Text.trim ‹Search›.text) .all
          exact ⟨_, by rw [hfilter]; rfl⟩
  unfold viewFilter
  dsimp only
  split
  · exact ⟨_, rfl⟩
  · obtain ⟨filter, hfilter⟩ := hsearch
    exact ⟨_, by rw [hfilter]; rfl⟩

end TermIndex

namespace Library

variable {l : Library}

/-- The filter of a view can always be made. -/
theorem exists_filter (l : Library) : ∃ filter, l.filter = .ok filter :=
  TermIndex.exists_viewFilter (fun _ _ => ⟨_, rfl⟩) _ _

/-- The groups of the view that would be computed now. -/
def freshGroups (l : Library) (grouping : Grouping) : Except QueryError (List Group) :=
  l.filter.bind (l.computeGroups grouping)

theorem freshGroups_eq {filter : Filter} (hfilter : l.filter = .ok filter) (grouping : Grouping) :
    l.freshGroups grouping = l.computeGroups grouping filter := by
  rw [freshGroups, hfilter]
  rfl

/-- The library that has another memory of groups. -/
def withMemo (l : Library) (memo : GroupMemo) : Library :=
  { l with parameters.caches.groups := memo }

/-- The groups that are remembered. -/
def memo (l : Library) : GroupMemo := l.parameters.caches.groups

/-- What looking at a view leaves of a library. -/
inductive Seen (l : Library) : Library → Prop
  | found (group : UInt64) : Seen l { l with parameters.layers.group := group }
  | made (group : UInt64) (grouping : Grouping) (groups : List Group)
      (hgrouping : l.layers.grouping = some grouping)
      (hgroups : l.freshGroups grouping = .ok groups) :
      Seen l { l.withMemo (l.memo.insert (l.groupingKey grouping) groups) with
        parameters.layers.group := group }

end Library

namespace LibraryM

open Library

variable {l : Library} {refused : Library → Prop}

/-! ### Following values -/

theorem ensures_classifierPush {value : Value} {post : Unit → Library → Prop}
    (hrefused : refused l)
    (hpost : ∀ path, l.parameters.MayFollow l.catalog path →
      post () { l with parameters := l.parameters.withPath path }) :
    Ensures (classifierPush value) l post refused := by
  unfold classifierPush
  refine ensures_bind.mpr (ensures_get.mpr ?_)
  refine ensures_bind.mpr (ensures_check (fun parameters hparameters => ?_) fun e _ => hrefused)
  obtain ⟨path, hpath, rfl⟩ := Parameters.mayFollow_of_classifierPush_ok hparameters
  exact ensures_set.mpr (hpost path hpath)

theorem ensures_setClassifier {path : List Value} {post : Unit → Library → Prop}
    (hrefused : refused l)
    (hpost : ∀ path, l.parameters.MayFollow l.catalog path →
      post () { l with parameters := l.parameters.withPath path }) :
    Ensures (setClassifier path) l post refused := by
  unfold setClassifier
  refine ensures_bind.mpr (ensures_get.mpr ?_)
  refine ensures_bind.mpr (ensures_check (fun parameters hparameters => ?_) fun e _ => hrefused)
  obtain ⟨path, hpath, rfl⟩ := Parameters.mayFollow_of_setClassifier_ok hparameters
  exact ensures_set.mpr (hpost path hpath)

/-! ### Groups -/

theorem ensures_groupsFor {grouping : Grouping} {filter : Filter}
    {post : List Group → Library → Prop}
    (hfound : ∀ groups, l.memo.find? (l.groupingKey grouping) = some groups → post groups l)
    (hmade : ∀ groups, l.memo.find? (l.groupingKey grouping) = none →
      l.computeGroups grouping filter = .ok groups →
      post groups (l.withMemo (l.memo.insert (l.groupingKey grouping) groups)))
    (hrefused : ∀ e, l.computeGroups grouping filter = .error e → refused l) :
    Ensures (groupsFor grouping filter) l post refused := by
  unfold groupsFor
  refine ensures_bind.mpr (ensures_get.mpr ?_)
  unfold GroupMemo.groupsWith GroupMemo.groupsWithM
  cases hfind : l.memo.find? (l.groupingKey grouping) with
  | some groups =>
      have hfind' : l.parameters.caches.groups.find? (l.groupingKey grouping) = some groups := hfind
      rw [hfind']
      exact hfound groups hfind
  | none =>
      have hfind' : l.parameters.caches.groups.find? (l.groupingKey grouping) = none := hfind
      rw [hfind']
      cases hcompute : l.computeGroups grouping filter with
      | error e => exact hrefused e hcompute
      | ok groups => exact hmade groups hfind hcompute

theorem ensures_chosenGroup {groups : List Group} {post : Option Group → Library → Prop} :
    Ensures (chosenGroup groups) l post refused ↔
      post groups[(l.parameters.clampGroup groups.length).layers.group.toNat]?
        { l with parameters := l.parameters.clampGroup groups.length } := Iff.rfl

theorem ensures_narrowToGroup {grouping : Grouping} {filter : Filter} {group : Option Group}
    {post : Filter → Library → Prop} (hnone : group = none → post .never l)
    (hsome : ∀ g member, group = some g →
      groupFilter l.catalog grouping l.layers.path g = .ok member → post (.all [filter, member]) l)
    (hrefused : ∀ g e, group = some g →
      groupFilter l.catalog grouping l.layers.path g = .error e → refused l) :
    Ensures (narrowToGroup grouping filter group) l post refused := by
  unfold narrowToGroup
  split
  · exact hnone rfl
  · rename_i g
    refine ensures_bind.mpr (ensures_get.mpr ?_)
    exact ensures_bind.mpr (ensures_check (fun member hmember => hsome g member rfl hmember)
      fun e he => hrefused g e rfl he)

/-- Groups are found or made, and one of them is chosen. -/
private theorem ensures_groups {grouping : Grouping} {filter : Filter} {α : Type}
    {next : List Group → Option Group → LibraryM α} {post : α → Library → Prop}
    (hgrouping : l.layers.grouping = some grouping) (hfilter : l.filter = .ok filter)
    (hrefused : ∀ l', l.Seen l' → refused l')
    (hnext : ∀ groups group l', l.Seen l' → Ensures (next groups group) l' post refused) :
    Ensures (do
      let groups ← groupsFor grouping filter
      let group ← chosenGroup groups
      next groups group) l post refused := by
  refine ensures_bind.mpr (ensures_groupsFor (fun groups _ => ?_) (fun groups _ hgroups => ?_)
    fun e _ => hrefused l (.found l.layers.group))
  · exact ensures_bind.mpr (ensures_chosenGroup.mpr (hnext groups _ _ (.found _)))
  · rw [← freshGroups_eq hfilter] at hgroups
    exact ensures_bind.mpr (ensures_chosenGroup.mpr
      (hnext groups _ _ (.made _ grouping groups hgrouping hgroups)))

/-! ### Looking at a view -/

/-- A grouped view finds its groups, chooses one of them and is narrowed to it. -/
theorem ensures_groupedBy {grouping : Grouping} {filter : Filter}
    {post : List Record × Option (List Group) → Library → Prop}
    (hgrouping : l.layers.grouping = some grouping) (hfilter : l.filter = .ok filter)
    (hgroups : Ensures (groupsFor grouping filter) l (fun groups l' =>
      let chosen := l'.parameters.clampGroup groups.length
      Ensures (narrowToGroup grouping filter groups[chosen.layers.group.toNat]?)
        { l' with parameters := chosen }
        (fun narrowed l' =>
          post (sortRecords l'.layers.sort (l'.store.select narrowed), some groups) l')
        refused) refused) :
    Ensures viewRecords l post refused := by
  unfold viewRecords
  refine ensures_bind.mpr (ensures_get.mpr (ensures_bind.mpr ?_))
  refine ensures_check (fun filter' hfilter' => ?_) fun e he => by cases hfilter.symm.trans he
  cases hfilter.symm.trans hfilter'
  refine ensures_bind.mpr (ensures_get.mpr ?_)
  dsimp only
  rw [hgrouping]
  refine ensures_bind.mpr (ensures_bind.mpr (hgroups.imp (fun groups l' h => ?_) fun _ h => h))
  refine ensures_bind.mpr (ensures_chosenGroup.mpr (ensures_bind.mpr ?_))
  exact h.imp (fun _ _ h => h) fun _ h => h

theorem leaves_viewRecords (l : Library) : Leaves viewRecords l l.Seen := by
  have hsame : l.Seen l := .found l.layers.group
  unfold viewRecords
  refine ensures_bind.mpr (ensures_get.mpr (ensures_bind.mpr ?_))
  refine ensures_check (fun filter hfilter => ?_) fun e _ => hsame
  refine ensures_bind.mpr (ensures_get.mpr ?_)
  dsimp only
  cases hgrouping : l.layers.grouping with
  | none => exact hsame
  | some grouping =>
      refine ensures_groups hgrouping hfilter (fun _ h => h) fun groups group l' hl' => ?_
      refine ensures_bind.mpr (ensures_narrowToGroup ?_ ?_ ?_)
      · exact fun _ => hl'
      · exact fun _ _ _ _ => hl'
      · exact fun _ _ _ _ => hl'

/-- A view is one page of the records that are found. -/
theorem ensures_view {request : PageRequest} {post : ViewResult → Library → Prop}
    (h : Ensures viewRecords l (fun answer l' =>
      post ⟨paginate answer.1 request, l'.layers, answer.2.map (·.map Group.summary)⟩ l') refused) :
    Ensures (view request) l post refused := by
  unfold view
  exact ensures_bind.mpr h

/-- A column is one field of the records that are found, and it may not be one. -/
theorem ensures_column {selector : Option Selector} {field : Field}
    {post : List FieldValue → Library → Prop}
    (h : Ensures viewRecords l (fun answer l' =>
      (∀ values, MediaLibrary.column answer.1 selector field = .ok values → post values l') ∧
        ∀ e, MediaLibrary.column answer.1 selector field = .error e → refused l') refused) :
    Ensures (column selector field) l post refused := by
  unfold column
  exact ensures_bind.mpr (h.imp (fun _ _ ⟨hpost, hrefused⟩ => ensures_check hpost hrefused)
    fun _ h => h)

theorem leaves_view (l : Library) (request : PageRequest) : Leaves (view request) l l.Seen :=
  ensures_view (leaves_viewRecords l)

theorem leaves_column (l : Library) (selector : Option Selector) (field : Field) :
    Leaves (column selector field) l l.Seen :=
  ensures_column ((leaves_viewRecords l).imp (fun _ _ h => ⟨fun _ _ => h, fun _ _ => h⟩)
    fun _ h => h)

theorem leaves_classifierSelectGroup {holds : Library → Prop} (hseen : ∀ l', l.Seen l' → holds l')
    (hpath : ∀ l' path, l.Seen l' → l'.parameters.MayFollow l'.catalog path →
      holds { l' with parameters := l'.parameters.withPath path }) :
    Leaves classifierSelectGroup l holds := by
  have hsame : holds l := hseen l (.found l.layers.group)
  unfold classifierSelectGroup
  refine ensures_bind.mpr (ensures_get.mpr ?_)
  cases hgrouping : l.layers.grouping with
  | none => exact hsame
  | some grouping =>
      refine ensures_bind.mpr (ensures_get.mpr (ensures_bind.mpr ?_))
      refine ensures_check (fun filter hfilter => ?_) fun e _ => hsame
      refine ensures_groups hgrouping hfilter hseen fun groups group l' hl' => ?_
      split
      · exact ensures_bind.mpr (ensures_classifierPush (hseen l' hl') fun path => hpath l' path hl')
      · exact hseen l' hl'

end LibraryM

end MediaLibrary
