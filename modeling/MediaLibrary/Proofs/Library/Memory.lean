/-
When what is remembered is out of date.

The groups of a view are remembered together with the layers that they were computed from.
They depend on the records and the definitions too, and nothing in the key says so: it is
left to each operation to drop what is remembered when it changes them.

All operations do, except two.  Setting the values of a property drops the groups only if
the view is grouped by that property, although the values are searched as well.  And when
an import is refused while it stores its records, those that it has stored stay and nothing
is dropped.  `Disturbs` names these two cases, and says of them that the groups come out
differently.  As long as no operation disturbs the view, the groups that are remembered are
those that would be computed; and an operation that does disturb it leaves them out of date.
-/
import MediaLibrary.Proofs.Grouping.Remembered
import MediaLibrary.Proofs.Library.Caches

namespace MediaLibrary

namespace Library

variable {l l' : Library}

/-! ### Groups that are up to date -/

/-- What would be told about the groups of the view if they were computed now. -/
def freshSummaries (l : Library) (grouping : Grouping) : Except QueryError (List GroupSummary) :=
  (l.freshGroups grouping).map (·.map Group.summary)

/-- If groups are remembered for the view, they are those that would be computed now. -/
def RemembersFresh (l : Library) : Prop :=
  ∀ grouping groups, l.layers.grouping = some grouping →
    l.memo.find? (l.groupingKey grouping) = some groups →
    l.freshSummaries grouping = .ok (groups.map Group.summary)

/-- Groups are computed from the records, the definitions and four of the layers. -/
theorem freshSummaries_congr (hstore : l'.store = l.store)
    (hdefinitions : l'.catalog.definitions = l.catalog.definitions)
    (hlayers : Parameters.SameBasis l.layers l'.layers) (grouping : Grouping) :
    l'.freshSummaries grouping = l.freshSummaries grouping := by
  have hbasis : grouping.basis l'.catalog = grouping.basis l.catalog := by
    unfold Grouping.basis Catalog.require Catalog.get?
    rw [hdefinitions]
  have hfilter : l'.filter = l.filter := by
    rw [filter, filter, hstore, hlayers.sources, hlayers.search]
  have hcompute : l'.computeGroups grouping = l.computeGroups grouping := by
    funext filter
    rw [computeGroups, computeGroups, groupsOf, groupsOf, hbasis, hstore, hlayers.path]
  rw [freshSummaries, freshSummaries, freshGroups, freshGroups, hfilter, hcompute]

theorem groupingKey_congr (hlayers : Parameters.SameBasis l.layers l'.layers)
    (grouping : Grouping) : l'.groupingKey grouping = l.groupingKey grouping := by
  rw [groupingKey, groupingKey, hlayers.sources, hlayers.search, hlayers.path]

/-! ### What is remembered for the view -/

/-- If groups are remembered for the view, they meet a condition. -/
def Remembers (l : Library) (holds : Grouping → List Group → Prop) : Prop :=
  ∀ grouping groups, l.layers.grouping = some grouping →
    l.memo.find? (l.groupingKey grouping) = some groups → holds grouping groups

section

variable {holds holds' : Grouping → List Group → Prop}

theorem remembers_of_forgotten (h : l.memo.entries = []) : l.Remembers holds := by
  intro grouping groups _ hfound
  rw [GroupMemo.find?_of_entries_eq_nil h] at hfound
  cases hfound

/-- What is remembered is as before, and the condition holds on. -/
theorem Remembers.of_kept (h : l.Remembers holds) (hmemo : l'.memo = l.memo)
    (hlayers : Parameters.SameBasis l.layers l'.layers)
    (hholds : ∀ grouping groups, l.layers.grouping = some grouping → holds grouping groups →
      holds' grouping groups) : l'.Remembers holds' := by
  intro grouping groups hgrouping hfound
  rw [hlayers.grouping] at hgrouping
  rw [hmemo, groupingKey_congr hlayers] at hfound
  exact hholds grouping groups hgrouping (h grouping groups hgrouping hfound)

/-- Groups that are made for the view are those that are remembered for it. -/
theorem remembers_of_made {grouping : Grouping} {groups : List Group}
    (hgrouping : l.layers.grouping = some grouping) (hholds : holds grouping groups)
    (group : UInt64) :
    Remembers { l.withMemo (l.memo.insert (l.groupingKey grouping) groups) with
      parameters.layers.group := group } holds := by
  intro grouping' groups' hgrouping' hfound
  cases hgrouping.symm.trans hgrouping'
  cases (GroupMemo.find?_insert_self l.memo (l.groupingKey grouping) groups).symm.trans hfound
  exact hholds

end

/-! ### What keeps groups up to date -/

theorem remembersFresh_of_forgotten (h : l.memo.entries = []) : l.RemembersFresh :=
  remembers_of_forgotten h

/-- What is remembered and what would be computed are both as before. -/
theorem RemembersFresh.of_kept (h : l.RemembersFresh) (hmemo : l'.memo = l.memo)
    (hlayers : Parameters.SameBasis l.layers l'.layers)
    (hfresh : ∀ grouping, l.layers.grouping = some grouping →
      l'.freshSummaries grouping = l.freshSummaries grouping) : l'.RemembersFresh :=
  Remembers.of_kept h hmemo hlayers fun grouping _ hgrouping hgroups =>
    (hfresh grouping hgrouping).trans hgroups

theorem RemembersFresh.of_same (h : l.RemembersFresh) (hstore : l'.store = l.store)
    (hdefinitions : l'.catalog.definitions = l.catalog.definitions) (hmemo : l'.memo = l.memo)
    (hlayers : Parameters.SameBasis l.layers l'.layers) : l'.RemembersFresh :=
  h.of_kept hmemo hlayers fun grouping _ =>
    freshSummaries_congr hstore hdefinitions hlayers grouping

/-- An operation on the layers keeps the groups with what they depend on, or drops them. -/
theorem RemembersFresh.of_follows (h : l.RemembersFresh) {parameters : Parameters Caches}
    (hfollows : l.parameters.Follows parameters) :
    RemembersFresh { l with parameters } := by
  cases hfollows with
  | kept layers hlayers => exact h.of_same rfl rfl rfl hlayers
  | dropped layers => exact remembersFresh_of_forgotten (Caches.forgotten_invalidate _).groups

/-- Groups are remembered as they are computed. -/
theorem RemembersFresh.of_seen (h : l.RemembersFresh) (hseen : l.Seen l') :
    l'.RemembersFresh := by
  cases hseen with
  | found group => exact h.of_same rfl rfl rfl ⟨rfl, rfl, rfl, rfl⟩
  | made group grouping groups hgrouping hgroups =>
      have hfresh : l.freshSummaries grouping = .ok (groups.map Group.summary) := by
        rw [freshSummaries, hgroups]
        rfl
      refine remembers_of_made hgrouping ?_ group
      rw [← hfresh]
      exact freshSummaries_congr (l := l) rfl rfl ⟨rfl, rfl, rfl, rfl⟩ grouping

/-! ### Operations that disturb the view -/

/-- The operation leaves the remembered groups alone although it may change the records: it
sets values of a property that the view is not grouped by, or it is an import that is
refused. -/
def NeglectsGroups (l : Library) : LibraryOperation → Prop
  | .setTag _ property _ => l.parameters.groupsBy property true = false
  | .importRecords records => ∃ e l', LibraryM.importRecords records l = .error e l'
  | _ => False

/-- The operation changes the groups of the view and leaves the remembered ones alone. -/
def Disturbs (l : Library) (operation : LibraryOperation) : Prop :=
  l.NeglectsGroups operation ∧
    ∃ grouping, l.layers.grouping = some grouping ∧
      (l.after operation).freshSummaries grouping ≠ l.freshSummaries grouping

open LibraryM

/-- An import that is refused changes nothing but the store. -/
private theorem ensures_importRecords_parameters (l : Library) (records : List Record) :
    Ensures (importRecords records) l (fun _ _ => True) fun l' => l'.parameters = l.parameters := by
  refine ensures_importRecords (fun l' => l'.parameters = l.parameters) rfl ?_ ?_ ?_
  · exact fun l' q r id store hl' _ _ => hl'
  · exact fun l' hl' => hl'
  · exact fun _ _ _ => trivial

/-- An operation that leaves the groups alone leaves the layers and the caches alone. -/
theorem NeglectsGroups.parameters_after {operation : LibraryOperation}
    (h : l.NeglectsGroups operation) : (l.after operation).parameters = l.parameters := by
  unfold NeglectsGroups at h
  split at h
  · rename_i ids property raw
    have hleaves : Leaves (LibraryOperation.setTag ids property raw).program l fun l' =>
        l'.parameters = l.parameters := by
      refine leaves_discard.mpr (ensures_setTag rfl fun values count store _ _ => ?_)
      show (l.parameters.notifyModified property true).2 = l.parameters
      rw [Parameters.notifyModified, h]
      rfl
    exact after_of_leaves hleaves
  · rename_i records
    obtain ⟨e, l', hrun⟩ := h
    rw [after_importRecords, hrun]
    exact (ensures_importRecords_parameters l records).of_error hrun
  · cases h

/-- Where the groups come out as before, they stay up to date. -/
private theorem RemembersFresh.of_neglects (h : l.RemembersFresh) {operation : LibraryOperation}
    (hneglects : l.NeglectsGroups operation) (hundisturbed : ¬l.Disturbs operation) :
    (l.after operation).RemembersFresh := by
  have hparameters := hneglects.parameters_after
  have hlayers : (l.after operation).layers = l.layers := congrArg Parameters.layers hparameters
  refine h.of_kept (congrArg (fun p => p.caches.groups) hparameters) ?_ fun grouping hgrouping => ?_
  · rw [hlayers]
    exact .refl _
  · by_cases hsame : (l.after operation).freshSummaries grouping = l.freshSummaries grouping
    · exact hsame
    · exact absurd ⟨hneglects, grouping, hgrouping, hsame⟩ hundisturbed

/-- **An operation that disturbs the view leaves its groups out of date.** -/
theorem Disturbs.not_remembersFresh {operation : LibraryOperation} (h : l.Disturbs operation)
    (hl : l.RemembersFresh) (hremembered : ∀ grouping, l.layers.grouping = some grouping →
      ∃ groups, l.memo.find? (l.groupingKey grouping) = some groups) :
    ¬(l.after operation).RemembersFresh := by
  intro hafter
  obtain ⟨hneglects, grouping, hgrouping, hne⟩ := h
  have hparameters := hneglects.parameters_after
  have hlayers : (l.after operation).layers = l.layers := congrArg Parameters.layers hparameters
  have hmemo : (l.after operation).memo = l.memo :=
    congrArg (fun p => p.caches.groups) hparameters
  obtain ⟨groups, hfound⟩ := hremembered grouping hgrouping
  have hfound' : (l.after operation).memo.find? ((l.after operation).groupingKey grouping) =
      some groups := by
    rw [hmemo, groupingKey, hlayers]
    exact hfound
  have hgrouping' : (l.after operation).layers.grouping = some grouping := hlayers ▸ hgrouping
  have hnow := hafter grouping groups hgrouping' hfound'
  exact hne (hnow.trans (hl grouping groups hgrouping hfound).symm)

/-! ### Operations that do not -/

/-- **An operation that does not disturb the view keeps its groups up to date.** -/
theorem RemembersFresh.after (h : l.RemembersFresh) (hs : l.Sound) {operation : LibraryOperation}
    (hundisturbed : ¬l.Disturbs operation) : (l.after operation).RemembersFresh := by
  by_cases hneglects : l.NeglectsGroups operation
  · exact h.of_neglects hneglects hundisturbed
  have hbecomes := becomes_after hs operation
  generalize l.after operation = l' at hbecomes
  cases hbecomes with
  | dropped hforgotten => exact remembersFresh_of_forgotten hforgotten.groups
  | layered hfollows => exact h.of_follows hfollows
  | seen hseen => exact h.of_seen hseen
  | followed path hseen => exact (h.of_seen hseen).of_follows (Parameters.follows_withPath path)
  | described all => exact h.of_same rfl rfl rfl ⟨rfl, rfl, rfl, rfl⟩
  | asked => exact h.of_same rfl rfl rfl ⟨rfl, rfl, rfl, rfl⟩
  | tagged property hset =>
      have hgrouped : l.parameters.groupsBy property true = true := by
        simpa [NeglectsGroups] using hneglects
      have hnotify : (l.parameters.notifyModified property true).2 = l.parameters.forceUpdate := by
        rw [Parameters.notifyModified, if_pos hgrouped]
      rw [hnotify]
      exact remembersFresh_of_forgotten (Caches.forgotten_invalidate _).groups
  | stopped hrefused => exact absurd ⟨_, _, hrefused⟩ hneglects

end Library

end MediaLibrary
