/-
The group that is chosen.

A group can be chosen at any time and by any number, and whatever is done later may change how
many groups there are.  Where the view is grouped this does no harm: each look at it moves the
choice into range.  Where it is not grouped nothing moves the choice, and what a view shows then
depends on how the choice came about.

Every operation that takes the grouping away puts the view back to its first group, so a view
without groups shows a later one only if that group was chosen while there were none.
-/
import MediaLibrary.Proofs.Library.Columns

namespace MediaLibrary

/-- The group that is chosen is one of those that are shown, and the first one if there are
none. -/
structure ViewResult.ChoiceFits (result : ViewResult) : Prop where
  inRange : ∀ groups, result.groups = some groups → groups ≠ [] →
    result.layers.group.toNat < groups.length
  empty : result.groups = some [] → result.layers.group = 0
  ungrouped : result.groups = none → result.layers.group = 0

/-- A view without groups has nothing but its first group chosen. -/
def Layers.ChoiceFits (layers : Layers) : Prop := layers.grouping = none → layers.group = 0

namespace Parameters

variable {κ : Type} [Invalidate κ] {p p' : Parameters κ}

theorem Restarts.choiceFits (hrestarts : p.Restarts p') (h : p.layers.ChoiceFits) :
    p'.layers.ChoiceFits := by
  cases hrestarts with
  | same => exact h
  | restarted layers hother hfirst => exact fun _ => hfirst

theorem choiceFits_reset (h : p.layers.ChoiceFits) (layer : Layer) :
    (p.reset layer).layers.ChoiceFits := by
  cases layer with
  | sources => exact (restarts_setSources _).choiceFits h
  | grouping => exact (restarts_setGrouping _).choiceFits h
  | classifier => exact (restarts_withPath _).choiceFits h
  | group => exact fun _ => rfl
  | search => exact (restarts_setSearch _).choiceFits h
  | sort => exact h

/-- A grouping is renamed with its property and does not go away. -/
theorem choiceFits_renameGroupingProperty (h : p.layers.ChoiceFits) (old new : String) :
    (p.renameGroupingProperty old new).layers.ChoiceFits := by
  rw [layers_renameGroupingProperty]
  exact fun hnone => h (Option.map_eq_none_iff.mp hnone)

theorem choiceFits_notifyModified (h : p.layers.ChoiceFits) (name : String) (isProperty : Bool) :
    (p.notifyModified name isProperty).2.layers.ChoiceFits := by
  rw [layers_notifyModified]
  exact h

end Parameters

namespace Library

variable {l : Library}

/-- Nothing but the first group is chosen where there are none. -/
def ChoiceFits (l : Library) : Prop := l.layers.ChoiceFits

/-- Every request is shown, with a choice that fits. -/
def ShowsChoice (l : Library) : Prop :=
  ∀ request, ∃ result, l.shows? request = some result ∧ result.ChoiceFits

/-! ### What is shown -/

/-- **A grouped view shows a group that it has**, whatever number was chosen. -/
theorem choiceFits_narrowedView (l : Library) (basis : Basis) (filter : Filter)
    (groups : List Group) (request : PageRequest) :
    (l.narrowedView basis filter groups request).ChoiceFits := by
  constructor
  case inRange =>
    rintro _ ⟨⟩ hne
    rw [List.length_map]
    refine Parameters.clampGroup_lt _ (List.length_pos_iff.mpr fun hnil => hne ?_)
    rw [hnil, List.map_nil]
  case empty =>
    intro hempty
    have hnil : groups = [] := List.map_eq_nil_iff.mp (Option.some.inj hempty)
    subst hnil
    exact Parameters.clampGroup_zero l.parameters
  case ungrouped => exact fun hnone => nomatch hnone

/-- **A view without groups shows the choice as it is.** -/
theorem exists_shown_ungrouped (hgrouping : l.layers.grouping = none) (request : PageRequest) :
    ∃ result, l.shows? request = some result ∧ result.groups = none ∧ result.layers = l.layers := by
  obtain ⟨filter, hfilter⟩ := l.exists_filter
  refine ⟨l.plainView filter request, ?_, rfl, rfl⟩
  rw [shows?, view_of_ungrouped hgrouping hfilter]

/-- What is shown has a choice that fits if the layers have one. -/
theorem Sound.showsChoice_iff (h : l.Sound) : l.ShowsChoice ↔ l.ChoiceFits := by
  constructor
  · intro hfits hgrouping
    obtain ⟨result, hshows, hresult⟩ := hfits {}
    obtain ⟨_, hshown, hnone, hlayers⟩ := exists_shown_ungrouped hgrouping {}
    cases hshows.symm.trans hshown
    rw [← hlayers]
    exact hresult.ungrouped hnone
  · intro hfits request
    cases hgrouping : l.layers.grouping with
    | some grouping =>
        obtain ⟨_, _, _, hgrouped⟩ := h.exists_grouped hgrouping
        exact ⟨_, (hgrouped.looked request).1, choiceFits_narrowedView ..⟩
    | none =>
        obtain ⟨result, hshown, hnone, hlayers⟩ := exists_shown_ungrouped hgrouping request
        have hfirst : result.layers.group = 0 := hlayers ▸ hfits hgrouping
        refine ⟨result, hshown, fun groups hgroups => ?_, fun _ => hfirst, fun _ => hfirst⟩
        cases hnone.symm.trans hgroups

/-! ### Operations -/

open LibraryM

/-- Looking at a grouped view leaves it grouped. -/
theorem Seen.choiceFits {l' : Library} (hseen : l.Seen l') (hgrouped : l.layers.grouping ≠ none) :
    l'.ChoiceFits := by
  cases hseen with
  | found group => exact fun hnone => absurd hnone hgrouped
  | made group grouping groups hgrouping hgroups => exact fun hnone => absurd hnone hgrouped

/-- Looking at a view keeps its grouping, and changes nothing where there is none. -/
theorem choiceFits_of_looks (hs : l.Sound) (h : l.ChoiceFits) {look : LibraryOperation}
    (hlook : look.looks = true) : (l.after look).ChoiceFits := by
  obtain ⟨records, groups, l', hsettles⟩ := hs.exists_settlesOn
  have hleaves : Leaves viewRecords l ChoiceFits := by
    cases hgrouping : l.layers.grouping with
    | some grouping =>
        have hgrouped : l.layers.grouping ≠ none := by simp [hgrouping]
        exact (leaves_viewRecords l).imp (fun _ _ hseen => hseen.choiceFits hgrouped)
          fun _ hseen => hseen.choiceFits hgrouped
    | none =>
        obtain ⟨filter, hfilter⟩ := l.exists_filter
        refine (ensures_plainRecords hgrouping hfilter).imp ?_ fun _ => False.elim
        rintro _ _ ⟨_, rfl⟩
        exact h
  rw [hsettles.after_of_looks hlook]
  exact hleaves.of_ok hsettles.found

/-- Following the chosen group shows its first group, and is refused without a grouping. -/
theorem leaves_classifierSelectGroup_choiceFits (h : l.ChoiceFits) :
    Leaves classifierSelectGroup l ChoiceFits := by
  cases hgrouping : l.layers.grouping with
  | some grouping =>
      have hgrouped : l.layers.grouping ≠ none := by simp [hgrouping]
      refine leaves_classifierSelectGroup (fun _ hseen => hseen.choiceFits hgrouped) ?_
      intro l' path hseen _
      exact (Parameters.restarts_withPath path).choiceFits (hseen.choiceFits hgrouped)
  | none =>
      unfold classifierSelectGroup
      refine ensures_bind.mpr (ensures_get.mpr ?_)
      rw [hgrouping]
      exact h

/-- **No operation makes a choice that does not fit**, be it carried out or refused, unless a
group is chosen where there are none. -/
theorem choiceFits_after (hs : l.Sound) (h : l.ChoiceFits) (operation : LibraryOperation)
    (hchosen : ∀ group, operation = .setGroup group → l.layers.grouping = none → group = 0) :
    (l.after operation).ChoiceFits := by
  -- What a look leaves is settled before; its rule would allow for any choice afterwards.
  by_cases hlooks : operation.looks = true
  · exact choiceFits_of_looks hs h hlooks
  have hforced : l.parameters.forceUpdate.layers.ChoiceFits := h
  refine after_of_leaves ?_
  cases operation with
  | importRecords records =>
      refine leaves_discard.mpr (ensures_importRecords (fun l' => l'.ChoiceFits) h ?_ ?_ ?_)
      · exact fun l' _ _ _ _ hl' _ _ => hl'
      · exact fun l' hl' => hl'
      · exact fun _ l' hl' => hl'
  | insertRecord r => exact leaves_discard.mpr (ensures_insertRecord h fun _ _ _ _ _ _ => h)
  | updateRecord r => exact ensures_updateRecord h fun _ _ _ _ _ => h
  | removeRecord id => exact leaves_discard.mpr (ensures_removeRecord (fun _ => h) h)
  | setTag ids property raw =>
      refine leaves_discard.mpr (ensures_setTag h fun values count store _ _ => ?_)
      exact Parameters.choiceFits_notifyModified h property true
  | defineProperty name kind multiple enumeration default =>
      exact ensures_defineProperty h fun _ _ _ _ _ _ => hforced
  | renameProperty old new =>
      refine ensures_renameProperty (fun _ _ => h) fun catalog count store _ _ => ?_
      exact Parameters.choiceFits_renameGroupingProperty hforced old (Text.trim new)
  | removeProperty name =>
      refine ensures_removeProperty h fun catalog count store _ _ => ?_
      dsimp only [ChoiceFits, layers]
      split
      · exact Parameters.choiceFits_reset hforced .grouping
      · exact hforced
  | setMultiplicity name multiple =>
      refine ensures_setMultiplicity h fun catalog count store _ _ => ?_
      have hnotified := Parameters.choiceFits_notifyModified hforced name true
      dsimp only [ChoiceFits, layers]
      split
      · exact hforced
      · split
        · exact (Parameters.restarts_withPath []).choiceFits hnotified
        · exact hnotified
  | describeProperties => exact leaves_discard.mpr (ensures_describeProperties fun _ _ => h)
  | setSources sources => exact (Parameters.restarts_setSources sources).choiceFits h
  | setSearch search => exact (Parameters.restarts_setSearch search).choiceFits h
  | setGrouping grouping =>
      exact ensures_setGrouping h fun _ =>
        (Parameters.restarts_setGrouping grouping).choiceFits h
  | classifierPush value =>
      exact ensures_classifierPush h fun path _ => (Parameters.restarts_withPath path).choiceFits h
  | setClassifier path =>
      exact ensures_setClassifier h fun path _ => (Parameters.restarts_withPath path).choiceFits h
  | classifierPop =>
      exact leaves_discard.mpr ((Parameters.restarts_withPath _).choiceFits h)
  | classifierReset => exact (Parameters.restarts_withPath []).choiceFits h
  | classifierSelectGroup =>
      exact leaves_discard.mpr (leaves_classifierSelectGroup_choiceFits h)
  | setGroup group => exact hchosen group rfl
  | setSort sort => exact h
  | reset layer => exact Parameters.choiceFits_reset h layer
  | forceUpdate => exact h
  | view request => exact absurd rfl hlooks
  | column selector field => exact absurd rfl hlooks
  | moveIndex => exact leaves_discard.mpr (ensures_moveIndex.mpr h)
  | moveCandidates id => exact leaves_discard.mpr (ensures_moveCandidates.mpr h)
  | moveLabel id => exact leaves_discard.mpr (ensures_moveLabel.mpr h)
  | applyMove missing found => exact ensures_applyMove hs.store h fun _ _ _ _ _ _ _ _ => h
  | reopen => exact ensures_modify.mpr fun _ => rfl

/-- The run never chooses a group but the first while there are none. -/
def ChoosesAmongGroups (operations : List LibraryOperation) : Prop :=
  ∀ earlier group, earlier ++ [.setGroup group] <+: operations →
    (afterAll earlier).layers.grouping = none → group = 0

theorem choiceFits_afterAll {operations : List LibraryOperation}
    (hchosen : ChoosesAmongGroups operations) : (afterAll operations).ChoiceFits := by
  refine afterAll_prefix_induction (fun _ => rfl) ?_
  intro earlier operation hprefix h
  refine choiceFits_after (sound_afterAll earlier) h operation ?_
  rintro group rfl
  exact hchosen earlier group hprefix

/-- **The chosen group is one of those that are shown, unless it was chosen without any.**  After
any run, refused operations included, every request for a page is answered.  Where the view is
grouped, the group of the answer is one of its groups, and the first one if there are none.
Where it is not grouped, the group of the answer is whichever the layers hold.  It is the first
one throughout a run if and only if the run never chooses another one while the view is not
grouped. -/
theorem chosen_group_is_shown (operations : List LibraryOperation) :
    let l := afterAll operations
    (∀ request, ∃ result, l.shows? request = some result ∧
        if l.layers.grouping = none then
          result.groups = none ∧ result.layers.group = l.layers.group
        else result.groups.isSome ∧ result.ChoiceFits) ∧
      ((∀ earlier, earlier <+: operations → (afterAll earlier).ShowsChoice) ↔
        ChoosesAmongGroups operations) := by
  intro l
  refine ⟨fun request => ?_, fun hfits earlier group hprefix hgrouping => ?_, ?_⟩
  · cases hgrouping : l.layers.grouping with
    | some grouping =>
        obtain ⟨_, _, _, hgrouped⟩ := (sound_afterAll operations).exists_grouped hgrouping
        refine ⟨_, (hgrouped.looked request).1, ?_⟩
        rw [if_neg (Option.some_ne_none grouping)]
        exact ⟨rfl, choiceFits_narrowedView ..⟩
    | none =>
        obtain ⟨result, hshown, hnone, hlayers⟩ := exists_shown_ungrouped hgrouping request
        refine ⟨result, hshown, ?_⟩
        rw [if_pos rfl]
        exact ⟨hnone, congrArg Layers.group hlayers⟩
  · -- The view right after the choice shows it.
    have hchosen := (sound_afterAll (earlier ++ [.setGroup group])).showsChoice_iff.mp
      (hfits _ hprefix)
    rw [afterAll_concat] at hchosen
    exact hchosen hgrouping
  · intro hchosen earlier hprefix
    refine (sound_afterAll earlier).showsChoice_iff.mpr (choiceFits_afterAll ?_)
    exact fun before group hbefore => hchosen before group (hbefore.trans hprefix)

/-- The sixth group is chosen in a library that has none, and is shown. -/
theorem missing_group_is_shown :
    let operations : List LibraryOperation := [.setGroup 5]
    (((afterAll operations).shows? {}).map fun result =>
        (result.groups.isNone, result.layers.group)) = some (true, 5) ∧
      ¬(afterAll operations).ShowsChoice := by
  intro operations
  have hshown : ((afterAll operations).shows? {}).map (fun result =>
      (result.groups.isNone, result.layers.group)) = some (true, 5) := by
    decide +kernel
  refine ⟨hshown, fun hfits => ?_⟩
  obtain ⟨result, hresult, hchoice⟩ := hfits {}
  rw [hresult, Option.map_some] at hshown
  obtain ⟨hnone, hgroup⟩ := Prod.mk.inj (Option.some.inj hshown)
  have hfirst := hchoice.ungrouped (Option.isNone_iff_eq_none.mp hnone)
  exact absurd (hgroup.symm.trans hfirst) (by decide)

end Library

end MediaLibrary
