/-
Views are answered.

A view could be refused at many steps: its filter has to be made, its grouping has to be found
in the catalog, its groups have to be computed and filtered by.  None of these steps is ever
refused in a sound library, and every reachable library is sound.
-/
import MediaLibrary.Proofs.Library.Shown
import MediaLibrary.Proofs.Library.Ungrouped

namespace MediaLibrary.Library

variable {l : Library}

open LibraryM

/-- **The records of a view are always found.** -/
theorem Sound.ensures_viewRecords (h : l.Sound) :
    Ensures viewRecords l (fun _ _ => True) fun _ => False := by
  cases hgrouping : l.layers.grouping with
  | none =>
      obtain ⟨filter, hfilter⟩ := l.exists_filter
      exact (ensures_plainRecords hgrouping hfilter).imp (fun _ _ _ => trivial) fun _ h => h
  | some grouping =>
      obtain ⟨basis, filter, fresh, hgrouped⟩ := h.exists_grouped hgrouping
      exact (ensures_groupedRecords hgrouping hgrouped.filtered hgrouped.based
        hgrouped.freshGroups_eq).imp (fun _ _ _ => trivial) fun _ h => h

theorem Sound.ensures_view (h : l.Sound) (request : PageRequest) :
    Ensures (view request) l (fun _ _ => True) fun _ => False := by
  exact LibraryM.ensures_view (h.ensures_viewRecords.imp (fun _ _ _ => trivial) fun _ h => h)

/-- The columns of a view can be asked for one at a time. -/
theorem Sound.ensures_column (h : l.Sound) (selector : Option Selector) {field : Field}
    (hfield : field.spansColumns = false) :
    Ensures (LibraryM.column selector field) l (fun _ _ => True) fun _ => False := by
  refine LibraryM.ensures_column (h.ensures_viewRecords.imp (fun answer _ _ => ?_) fun _ h => h)
  refine ⟨fun _ _ => trivial, fun e he => ?_⟩
  rw [MediaLibrary.column, hfield] at he
  cases he

/-- **Views are answered.**  After any run, refused operations included, the view is grouped by
a property that is defined or by a field that exists, if it is grouped at all.  Every request
for a page is answered, and so is one for the values of any field but the resolution, which has
two of them; neither does more than look at the view.  The index of moved files is answered
too. -/
theorem views_are_answered (operations : List LibraryOperation) :
    let l := afterAll operations
    (∀ g, l.layers.grouping = some g →
        if g.isProperty then (∃ d, l.catalog.get? g.field = some d)
        else ∃ field, Field.ofText? g.field = some field) ∧
      (∀ request, ∃ result l', view request l = .ok result l' ∧ l.Seen l') ∧
      (∀ selector field, field ≠ .resolution →
        ∃ values l', LibraryM.column selector field l = .ok values l' ∧ l.Seen l') ∧
      ∃ index l', moveIndex l = .ok index l' := by
  intro l
  have h : l.Sound := sound_afterAll operations
  refine ⟨fun g hg => Catalog.resolves_iff.mp (h.grouping g hg), ?_, ?_, ?_⟩
  · intro request
    obtain ⟨result, l', hrun, _⟩ := (h.ensures_view request).exists_ok
    exact ⟨result, l', hrun, (leaves_view l request).of_ok hrun⟩
  · intro selector field hfield
    have hspans : field.spansColumns = false := by
      cases field <;> first | rfl | exact absurd rfl hfield
    obtain ⟨values, l', hrun, _⟩ := (h.ensures_column selector hspans).exists_ok
    exact ⟨values, l', hrun, (leaves_column l selector field).of_ok hrun⟩
  · exact ⟨l.knownMoves, l.withKnownMoves, rfl⟩

end MediaLibrary.Library
