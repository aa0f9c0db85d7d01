/-
Paths of values.

A path is followed value by value, and each value is checked alone.  Values that a property may
hold together, such as those that were read from texts, all pass these checks, and none of them
comes twice; so a path of them is followed to its end as it stands.

The other way round, a path that was followed is one of values that the property may hold
together, and the property is the one that the view is grouped by.  `AdmitsPath` says so, and
`MayFollow` that a way to set the path keeps to it.
-/
import MediaLibrary.Proofs.Property.Catalog
import MediaLibrary.View.Parameters

namespace MediaLibrary

/-! ### Values that were read -/

/-- Something is held where something was read. -/
theorem Definition.parse_ne_nil {d : Definition} {texts : List String} {values : List Value}
    (htexts : texts ≠ []) (h : d.parse texts = .ok values) : values ≠ [] := by
  unfold parse validate at h
  obtain ⟨raw, hraw, h⟩ := Checked.exists_of_bind_ok h
  obtain ⟨conformed, hconformed, h⟩ := Checked.exists_of_bind_ok h
  obtain ⟨text, rest, rfl⟩ := List.exists_cons_of_ne_nil htexts
  obtain ⟨value, others, _, _, rfl⟩ := Checked.mapM_cons_ok hraw
  obtain ⟨first, others, _, _, rfl⟩ := Checked.mapM_cons_ok hconformed
  dsimp only at h
  split at h
  · cases h
  · cases h
    exact List.ne_nil_of_mem (List.mem_eraseDups.mpr List.mem_cons_self)

/-- One value is held as one value. -/
theorem Definition.exists_of_validate_one {d : Definition} {value : Value} {values : List Value}
    (h : d.validate [value] = .ok values) : ∃ v, values = [v] := by
  obtain ⟨conformed, hconformed, h⟩ := Checked.exists_of_bind_ok h
  obtain ⟨v, others, _, hothers, rfl⟩ := Checked.mapM_cons_ok hconformed
  rw [List.mapM_nil] at hothers
  cases hothers
  have hone : [v].eraseDups = [v] := rfl
  dsimp only at h
  rw [hone] at h
  split at h
  · cases h
  · cases h
    exact ⟨v, rfl⟩

namespace Catalog

variable {c : Catalog} {name : String} {texts : List String} {values : List Value}

theorem exists_of_validate_one {value : Value} (h : c.validate name [value] = .ok values) :
    ∃ v, values = [v] := by
  obtain ⟨d, _, h⟩ := Checked.exists_of_bind_ok h
  exact Definition.exists_of_validate_one h

theorem parse_ne_nil (htexts : texts ≠ []) (h : c.parse name texts = .ok values) :
    values ≠ [] := by
  obtain ⟨d, _, h⟩ := Checked.exists_of_bind_ok h
  exact Definition.parse_ne_nil htexts h

/-- Values that were read may be held together. -/
theorem admitsValues_of_parse (h : c.parse name texts = .ok values) :
    c.AdmitsValues name values := by
  obtain ⟨d, hd, h⟩ := Checked.exists_of_bind_ok h
  obtain ⟨raw, _, h⟩ := Checked.exists_of_bind_ok h
  have hvalidate : c.validate name raw = .ok values := by
    rw [validate, hd]
    exact h
  exact admitsValues_of_validate hvalidate

/-- Of values that may be held together, each may be held alone. -/
theorem AdmitsValues.alone (h : c.AdmitsValues name values) {value : Value}
    (hvalue : value ∈ values) : c.AdmitsValues name [value] := by
  obtain ⟨d, hd, hadmits⟩ := h
  refine ⟨d, hd, fun v hv => ?_, List.pairwise_singleton _ value, fun _ => Nat.le_refl 1⟩
  rw [List.mem_singleton.mp hv]
  exact hadmits.allowed value hvalue

/-- A path is of values that may be held together, by a property that may have several and that
the view is grouped by.  Without such a property there is no path. -/
def AdmitsPath (c : Catalog) (grouping : Option Grouping) (path : List Value) : Prop :=
  path ≠ [] → ∃ g d, grouping = some g ∧ g.isProperty = true ∧ c.get? g.field = some d ∧
    d.multiple = true ∧ d.Admits path

theorem admitsPath_nil (grouping : Option Grouping) : c.AdmitsPath grouping [] :=
  fun hne => absurd rfl hne

/-- Values of a path may be left out. -/
theorem AdmitsPath.sublist {grouping : Option Grouping} {path path' : List Value}
    (h : c.AdmitsPath grouping path) (hsub : path'.Sublist path) :
    c.AdmitsPath grouping path' := by
  intro hne
  have hsome : path ≠ [] := fun hnil => hne (List.sublist_nil.mp (hnil ▸ hsub))
  obtain ⟨g, d, hg, hproperty, hd, hmultiple, hadmits⟩ := h hsome
  refine ⟨g, d, hg, hproperty, hd, hmultiple, ?_, hadmits.nodup.sublist hsub, ?_⟩
  · exact fun value hvalue => hadmits.allowed value (hsub.subset hvalue)
  · exact fun hsingle => Nat.le_trans hsub.length_le (hadmits.single hsingle)

end Catalog

/-! ### Following values -/

namespace Parameters

variable {c : Catalog} {property : String}

/-- What a property holds for one value is one value, so it makes no difference whether all of it
is followed or the first of it only. -/
theorem extendAll_eq_extend : extendAll c property = extend c property := by
  funext path value
  unfold extendAll extend
  cases hvalues : c.validate property [value] with
  | error e => rfl
  | ok values =>
      obtain ⟨v, rfl⟩ := Catalog.exists_of_validate_one hvalues
      show (addNew path v >>= pure) = if v ∈ path then throw (.duplicateValue v) else pure _
      unfold addNew
      split <;> rfl

theorem extend_of_admitsValues {path : List Value} {value : Value}
    (h : c.AdmitsValues property [value]) (hnew : value ∉ path) :
    extend c property path value = .ok (path ++ [value]) := by
  unfold extend
  rw [Catalog.validate_of_admitsValues h]
  show (if value ∈ path then throw _ else pure _) = _
  rw [if_neg hnew]
  rfl

private theorem foldlM_extend (rest : List Value) :
    ∀ path : List Value, (path ++ rest).Nodup →
      (∀ value ∈ rest, c.AdmitsValues property [value]) →
      rest.foldlM (extend c property) path = .ok (path ++ rest) := by
  induction rest with
  | nil =>
      intro path _ _
      rw [List.append_nil]
      rfl
  | cons value rest ih =>
      intro path hnodup hadmits
      have hnew : value ∉ path := fun hmem =>
        (List.nodup_append.mp hnodup).2.2 value hmem value List.mem_cons_self rfl
      rw [List.append_cons] at hnodup ⊢
      rw [List.foldlM_cons, extend_of_admitsValues (hadmits value List.mem_cons_self) hnew]
      exact ih (path ++ [value]) hnodup fun v hv => hadmits v (List.mem_cons_of_mem value hv)

/-- **Values that a property may hold together are followed as they stand.** -/
theorem foldlM_extend_of_admitsValues {values : List Value} (h : c.AdmitsValues property values) :
    values.foldlM (extend c property) [] = .ok values := by
  obtain ⟨_, _, hadmits⟩ := id h
  exact foldlM_extend values [] hadmits.nodup fun value hvalue => h.alone hvalue

/-- Only a property that may have several values has a path. -/
theorem of_classifiedProperty_ok {κ : Type} {p : Parameters κ}
    (h : p.classifiedProperty c = .ok property) :
    ∃ g d, p.layers.grouping = some g ∧ g.isProperty = true ∧ g.field = property ∧
      c.get? property = some d ∧ d.multiple = true := by
  unfold classifiedProperty at h
  split at h
  · cases h
  · rename_i g hg
    split at h
    · rename_i hmultiple
      cases h
      obtain ⟨hproperty, hany⟩ := (Bool.and_eq_true _ _).mp hmultiple
      obtain ⟨d, hd, hmultiple⟩ := (Option.any_eq_true _ _).mp hany
      exact ⟨g, d, hg, hproperty, rfl, hd, hmultiple⟩
    · cases h

/-- A path that is set is one of the property that the view is grouped by. -/
theorem of_setClassifier_ok {κ : Type} [Invalidate κ] {p p' : Parameters κ} {path : List Value}
    (hpath : path ≠ []) (h : p.setClassifier path c = .ok p') :
    ∃ g, p.layers.grouping = some g ∧ (c.AdmitsValues g.field path → p' = p.withPath path) := by
  unfold setClassifier at h
  rw [if_neg fun hempty => hpath (List.isEmpty_iff.mp hempty)] at h
  obtain ⟨property, hproperty, h⟩ := Checked.exists_of_bind_ok h
  obtain ⟨followed, hfollowed, h⟩ := Checked.exists_of_bind_ok h
  cases h
  rw [extendAll_eq_extend] at hfollowed
  obtain ⟨g, _, hg, _, rfl, _⟩ := of_classifiedProperty_ok hproperty
  refine ⟨g, hg, fun hadmits => ?_⟩
  cases (foldlM_extend_of_admitsValues hadmits).symm.trans hfollowed
  rfl

/-! ### Values that were followed -/

/-- A path that is followed further stays one of different values, each of which the property
may hold. -/
theorem admits_of_extend {d : Definition} (hd : c.get? property = some d)
    (hmultiple : d.multiple = true) {path path' : List Value} {value : Value}
    (hadmits : d.Admits path) (h : extend c property path value = .ok path') :
    d.Admits path' := by
  unfold extend at h
  obtain ⟨values, hvalues, h⟩ := Checked.exists_of_bind_ok h
  cases values with
  | nil =>
      cases h
      exact hadmits
  | cons v rest =>
      have hv : d.Allows v := by
        cases hvalidate : c.validate property [value] with
        | error e =>
            rw [hvalidate] at hvalues
            cases hvalues
        | ok checked =>
            rw [hvalidate] at hvalues
            cases hvalues
            rw [Catalog.validate_eq, hd] at hvalidate
            exact (Definition.admits_of_validate hvalidate).allowed v List.mem_cons_self
      dsimp only at h
      split at h
      · cases h
      · rename_i hnew
        cases h
        refine ⟨fun w hw => ?_, ?_, fun hsingle => ?_⟩
        · rcases List.mem_append.mp hw with hw | hw
          · exact hadmits.allowed w hw
          · exact List.mem_singleton.mp hw ▸ hv
        · exact List.nodup_append.mpr ⟨hadmits.nodup, List.pairwise_singleton _ v,
            fun a ha b hb hab => hnew (List.mem_singleton.mp hb ▸ hab ▸ ha)⟩
        · rw [hmultiple] at hsingle
          cases hsingle

theorem admits_of_foldlM_extend {d : Definition} (hd : c.get? property = some d)
    (hmultiple : d.multiple = true) (values : List Value) :
    ∀ {path path' : List Value}, d.Admits path →
      values.foldlM (extend c property) path = .ok path' → d.Admits path' := by
  induction values with
  | nil =>
      intro path path' hadmits h
      cases h
      exact hadmits
  | cons value rest ih =>
      intro path path' hadmits h
      rw [List.foldlM_cons] at h
      obtain ⟨next, hnext, h⟩ := Checked.exists_of_bind_ok h
      exact ih (admits_of_extend hd hmultiple hadmits hnext) h

section

variable {κ : Type} [Invalidate κ] {p p' : Parameters κ}

/-- A path that the catalog admits, if it admits the one that was followed before. -/
def MayFollow (p : Parameters κ) (c : Catalog) (path : List Value) : Prop :=
  c.AdmitsPath p.layers.grouping p.layers.path → c.AdmitsPath p.layers.grouping path

/-- No values are admitted by every property. -/
private theorem admits_nil (d : Definition) : d.Admits [] :=
  ⟨fun _ hvalue => absurd hvalue List.not_mem_nil, List.nodup_nil, fun _ => Nat.zero_le 1⟩

omit [Invalidate κ] in
/-- What the property admits by which the view is grouped, the catalog admits as a path. -/
private theorem mayFollow_of_admits {path : List Value}
    (hclassified : p.classifiedProperty c = .ok property)
    (h : ∀ d, c.get? property = some d → d.multiple = true → d.Admits p.layers.path →
      d.Admits path) :
    p.MayFollow c path := by
  obtain ⟨g, d, hg, hproperty, rfl, hd, hmultiple⟩ := of_classifiedProperty_ok hclassified
  refine fun hbefore _ => ⟨g, d, hg, hproperty, hd, hmultiple, h d hd hmultiple ?_⟩
  by_cases hnil : p.layers.path = []
  · rw [hnil]
    exact admits_nil d
  · obtain ⟨g', d', hg', _, hd', _, hadmits⟩ := hbefore hnil
    cases hg.symm.trans hg'
    cases hd.symm.trans hd'
    exact hadmits

theorem mayFollow_of_classifierPush_ok {value : Value} (h : p.classifierPush value c = .ok p') :
    ∃ path, p.MayFollow c path ∧ p' = p.withPath path := by
  obtain ⟨property, hclassified, h⟩ := Checked.exists_of_bind_ok h
  obtain ⟨path, hpath, h⟩ := Checked.exists_of_bind_ok h
  cases h
  exact ⟨path, mayFollow_of_admits hclassified fun d hd hmultiple hbefore =>
    admits_of_extend hd hmultiple hbefore hpath, rfl⟩

theorem mayFollow_of_setClassifier_ok {path : List Value} (h : p.setClassifier path c = .ok p') :
    ∃ path, p.MayFollow c path ∧ p' = p.withPath path := by
  unfold setClassifier at h
  split at h
  · cases h
    exact ⟨[], fun _ => Catalog.admitsPath_nil _, rfl⟩
  · obtain ⟨property, hclassified, h⟩ := Checked.exists_of_bind_ok h
    obtain ⟨followed, hfollowed, h⟩ := Checked.exists_of_bind_ok h
    cases h
    rw [extendAll_eq_extend] at hfollowed
    exact ⟨followed, mayFollow_of_admits hclassified fun d hd hmultiple _ =>
      admits_of_foldlM_extend hd hmultiple path (admits_nil d) hfollowed, rfl⟩

end

end Parameters

end MediaLibrary
