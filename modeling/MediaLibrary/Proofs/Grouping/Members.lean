/-
The members of a group.

The records of a group are found twice.  First a bucket gathers them by the value that they
share; later, when the view is narrowed to the group, a filter is made of the group and tried
on the records anew.  Nothing forces the two to agree: a bucket looks at the first value of a
property and falls back on the default, or leaves the path out of several values, while the
filter asks whether values are held or missing.

They agree on records that the catalog admits.  A grouping that resolves stands on a field, or
on a property that is defined under the name it was asked for, and an admitted record has no
more values of that property than its definition allows.
-/
import MediaLibrary.Proofs.Grouping.Gathered
import MediaLibrary.Proofs.Library.Sound

namespace MediaLibrary

open Std

namespace Catalog

variable {c : Catalog} {g : Grouping} {basis : Basis}

/-! ### What a grouping stands on -/

/-- A catalog keeps each definition under its own name. -/
theorem keyed_ofDefinitions (definitions : List Definition) :
    OrderedMap.Keyed Definition.name (ofDefinitions definitions).definitions := by
  have hkeyed : ∀ (definitions : List Definition) (all : ExtTreeMap String Definition),
      OrderedMap.Keyed Definition.name all →
      OrderedMap.Keyed Definition.name
        (definitions.foldl (fun all d => all.insert d.name d) all) := by
    intro definitions
    induction definitions with
    | nil => exact fun all h => h
    | cons d rest ih => exact fun all h => ih _ (h.insert d)
  exact hkeyed definitions ∅ fun name d h => by simp at h

/-- What records are grouped by: a property that is defined, or a field. -/
theorem basis_cases (hnamed : OrderedMap.Keyed Definition.name c.definitions)
    (hbasis : g.basis c = .ok basis) :
    (∃ d, g.isProperty = true ∧ c.get? g.field = some d ∧
        basis = if d.multiple then .several g.field else .single g.field d.default) ∨
      ∃ f, basis = .field f := by
  unfold Grouping.basis require at hbasis
  split at hbasis
  · rename_i hproperty
    cases hget : c.get? g.field with
    | none =>
        rw [hget] at hbasis
        cases hbasis
    | some d =>
        rw [hget] at hbasis
        have hname : d.name = g.field := hnamed _ d hget
        rw [← Except.ok.inj hbasis, hname]
        exact Or.inl ⟨d, hproperty, rfl, rfl⟩
  · split at hbasis
    · exact Or.inr ⟨_, (Except.ok.inj hbasis).symm⟩
    · cases hbasis

/-- A record that is admitted has one value at most of a property with a single value. -/
theorem Admits.fits {r : Record} (h : c.Admits r)
    (hnamed : OrderedMap.Keyed Definition.name c.definitions) (hbasis : g.basis c = .ok basis) :
    basis.Fits r := by
  rcases basis_cases hnamed hbasis with ⟨d, _, hget, rfl⟩ | ⟨f, rfl⟩
  · split
    · trivial
    · rename_i hsingle
      show (r.values g.field).length ≤ 1
      by_cases hvalues : r.values g.field = []
      · simp [hvalues]
      · obtain ⟨d', hget', hd'⟩ := h.admitsValues hvalues
        cases hget.symm.trans hget'
        exact hd'.single (by simpa using hsingle)
  · trivial

/-! ### Groups and their filters -/

/-- **The filter of a group selects its members.**  Records that the catalog admits are put
into groups by any grouping that resolves and along any path of values.  Each of the groups has
a filter, and the records that the filter accepts are, in the order in which they were given,
those that the group lists. -/
theorem groupFilter_selects_members (c : Catalog)
    (hnamed : OrderedMap.Keyed Definition.name c.definitions) (records : List Record)
    (hadmitted : ∀ r ∈ records, c.Admits r) (g : Grouping) (hresolves : c.Resolves g)
    (path : List Value) :
    ∃ groups, groupsOf c g path records = .ok groups ∧
      ∀ group ∈ groups, ∃ filter, groupFilter c g path group = .ok filter ∧
        (records.filter fun r => filter.accepts r).map (·.id) = group.ids := by
  obtain ⟨basis, hbasis⟩ := hresolves
  refine ⟨groupsOn basis g path records, ?_, fun group hgroup => ?_⟩
  · rw [groupsOf, hbasis]
    rfl
  · refine ⟨basis.groupFilter path group, ?_, ?_⟩
    · rw [groupFilter, hbasis]
      rfl
    · have hfits : ∀ r ∈ records, basis.Fits r := fun r hr => (hadmitted r hr).fits hnamed hbasis
      exact (ids_of_mem_groupsOn hfits hgroup).symm

/-- Beyond a path through not-a-number, the two zeros are different values: the records with
the positive one make a group, and that with the negative one is alone. -/
theorem groupFilter_tells_zeros_apart :
    let weight : Definition := ⟨"weight", .float, true, none, .float Binary64.zero⟩
    let c := ofDefinitions [weight]
    let notANumber := Value.float (Binary64.nan false)
    let records : List Record :=
      [({ id := 1 } : Record).setValues "weight" [notANumber, .float Binary64.negativeZero],
        ({ id := 2 } : Record).setValues "weight" [.float Binary64.zero, notANumber],
        ({ id := 3 } : Record).setValues "weight" [notANumber, .float Binary64.zero],
        { id := 4 }]
    let g : Grouping := { field := "weight", isProperty := true }
    ∃ groups, groupsOf c g [notANumber] records = .ok groups ∧
      groups.map Group.ids = [[1, 2, 3], [2, 3]] ∧
      ∀ group ∈ groups, ∃ filter, groupFilter c g [notANumber] group = .ok filter ∧
        (records.filter fun r => filter.accepts r).map (·.id) = group.ids := by
  intro weight c notANumber records g
  have hdefined : c.get? "weight" = some weight := by decide +kernel
  have hbare : ∀ id, c.Admits { id } := fun id name values h => by simp at h
  have hweighed : ∀ id values, (∀ value ∈ values, value.kind = .float) → values.Nodup →
      c.Admits (({ id } : Record).setValues "weight" values) := by
    intro id values hkind hnodup
    refine (hbare id).setValues fun _ => ⟨weight, hdefined, ?_, hnodup, fun h => by cases h⟩
    exact fun value hvalue => ⟨hkind value hvalue, fun members h => by cases h⟩
  have hadmitted : ∀ r ∈ records, c.Admits r := by
    intro r hr
    simp only [records, List.mem_cons, List.not_mem_nil, or_false] at hr
    rcases hr with rfl | rfl | rfl | rfl
    · exact hweighed 1 _ (by decide) (by decide +kernel)
    · exact hweighed 2 _ (by decide) (by decide +kernel)
    · exact hweighed 3 _ (by decide) (by decide +kernel)
    · exact hbare 4
  have hresolves : c.Resolves g := resolves_iff.mpr ⟨weight, hdefined⟩
  obtain ⟨groups, hgroups, hmembers⟩ := groupFilter_selects_members c (keyed_ofDefinitions _)
    records hadmitted g hresolves [notANumber]
  have hids : (groupsOf c g [notANumber] records).toOption.map (·.map Group.ids) =
      some [[1, 2, 3], [2, 3]] := by decide +kernel
  rw [hgroups] at hids
  exact ⟨groups, hgroups, Option.some.inj hids, hmembers⟩

end Catalog

end MediaLibrary
