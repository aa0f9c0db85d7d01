/-
A path that is set, and a path that is followed value by value.

A path can be set as a whole, or it can be forgotten and then followed again with one value after
the other.  Setting it looks at the layers once, and collects the values before anything changes.
Following it looks at the layers anew for every value, and changes them every time.  Both take
the same paths, refuse the others for the same reason, and end with the same values.

What carries the proof is that following a value leaves the grouping alone.  So every value meets
the property that the first one met, and the values before it are those that would have been
collected so far.
-/
import MediaLibrary.Proofs.View.Listeners

namespace MediaLibrary.Parameters

variable {κ : Type} [Invalidate κ] {p q r : Parameters κ} {c : Catalog} {property : String}

/-- Follows values one after the other, until one of them is refused. -/
def pushAll (p : Parameters κ) (values : List Value) (catalog : Catalog) :
    Except ParametersError (Parameters κ) :=
  values.foldlM (fun p value => p.classifierPush value catalog) p

/-! ### The values that are followed -/

theorem classifiedProperty_withPath (path : List Value) :
    (p.withPath path).classifiedProperty c = p.classifiedProperty c := by
  unfold classifiedProperty
  rw [grouping_withPath]

theorem classifierPush_eq (h : p.classifiedProperty c = .ok property) (value : Value) :
    p.classifierPush value c = (extend c property p.layers.path value).map p.withPath := by
  unfold classifierPush
  rw [h]
  show (extend c property p.layers.path value >>= fun path => pure (p.withPath path)) = _
  cases extend c property p.layers.path value <;> rfl

/-- A value for which there is no property is refused. -/
theorem classifierPush_of_error {e : ParametersError} (h : p.classifiedProperty c = .error e)
    (value : Value) : p.classifierPush value c = .error e := by
  unfold classifierPush
  rw [h]
  rfl

/-- The values that are followed are those that would be collected. -/
theorem map_path_pushAll (values : List Value) :
    ∀ {p : Parameters κ}, p.classifiedProperty c = .ok property →
      (p.pushAll values c).map (·.layers.path) =
        values.foldlM (extend c property) p.layers.path := by
  induction values with
  | nil => exact fun _ => rfl
  | cons value rest ih =>
      intro p h
      rw [pushAll, List.foldlM_cons, List.foldlM_cons, classifierPush_eq h]
      cases extend c property p.layers.path value with
      | error e => rfl
      | ok path =>
          have hrest := ih (p := p.withPath path) (by rw [classifiedProperty_withPath, h])
          rw [path_withPath] at hrest
          exact hrest

/-- The values of a path are collected before any of them is followed. -/
theorem setClassifier_eq (h : p.classifiedProperty c = .ok property) {path : List Value}
    (hpath : path ≠ []) :
    p.setClassifier path c = (path.foldlM (extend c property) []).map p.withPath := by
  unfold setClassifier
  rw [if_neg fun hempty => hpath (List.isEmpty_iff.mp hempty), h]
  show (path.foldlM (extendAll c property) [] >>= fun path => pure (p.withPath path)) = _
  rw [extendAll_eq_extend]
  cases path.foldlM (extend c property) [] <;> rfl

/-- Values for which there is no property are refused. -/
theorem setClassifier_of_error {e : ParametersError} (h : p.classifiedProperty c = .error e)
    {path : List Value} (hpath : path ≠ []) : p.setClassifier path c = .error e := by
  unfold setClassifier
  rw [if_neg fun hempty => hpath (List.isEmpty_iff.mp hempty), h]
  rfl

/-- **A path is set as it is followed**: it is refused for the same reason, or it comes to the same
values. -/
theorem map_path_setClassifier (path : List Value) :
    (p.setClassifier path c).map (·.layers.path) =
      (p.classifierReset.pushAll path c).map (·.layers.path) := by
  have hclassified : p.classifierReset.classifiedProperty c = p.classifiedProperty c :=
    classifiedProperty_withPath []
  have hempty : p.classifierReset.layers.path = [] := path_withPath []
  cases path with
  | nil => rfl
  | cons value rest =>
      have hpath : value :: rest ≠ [] := List.cons_ne_nil value rest
      cases h : p.classifiedProperty c with
      | error e =>
          rw [setClassifier_of_error h hpath, pushAll, List.foldlM_cons,
            classifierPush_of_error (hclassified.trans h)]
          rfl
      | ok property =>
          rw [setClassifier_eq h hpath, map_path_pushAll _ (hclassified.trans h), hempty]
          cases (value :: rest).foldlM (extend c property) [] with
          | error e => rfl
          | ok path => exact congrArg Except.ok (path_withPath path)

/-! ### The other layers -/

/-- Nothing has changed, or another path is followed and the first group is shown. -/
def Redirects (p q : Parameters κ) : Prop :=
  q = p ∨ q.layers = { p.layers with path := q.layers.path, group := 0 }

omit [Invalidate κ] in
theorem Redirects.trans (hpq : p.Redirects q) (hqr : q.Redirects r) : p.Redirects r := by
  rcases hqr with rfl | hr
  · exact hpq
  rcases hpq with rfl | hq
  · exact .inr hr
  · rw [hq] at hr
    exact .inr hr

theorem redirects_withPath (path : List Value) : p.Redirects (p.withPath path) := by
  unfold withPath
  split
  · exact .inl rfl
  · exact .inr rfl

theorem redirects_pushAll (values : List Value) :
    ∀ {p q : Parameters κ}, p.pushAll values c = .ok q → p.Redirects q := by
  induction values with
  | nil =>
      intro p q h
      cases h
      exact .inl rfl
  | cons value rest ih =>
      intro p q h
      rw [pushAll, List.foldlM_cons] at h
      obtain ⟨next, hnext, h⟩ := Checked.exists_of_bind_ok h
      obtain ⟨path, _, rfl⟩ := mayFollow_of_classifierPush_ok hnext
      exact (redirects_withPath path).trans (ih h)

/-- There is one way to come to another path, so two of them leave the same layers. -/
theorem eq_or_layers_eq {path : List Value} (hsame : (p.withPath path).layers.path = q.layers.path)
    (hq : p.Redirects q) : p.withPath path = p ∨ (p.withPath path).layers = q.layers := by
  rw [path_withPath] at hsame
  by_cases hpath : p.layers.path = path
  · exact .inl (if_pos hpath)
  · refine .inr ?_
    rcases hq with rfl | hq
    · exact absurd hsame.symm hpath
    · rw [hq, ← hsame, withPath, if_neg hpath]
      rfl

/-- **A path is set exactly as it is followed value by value.**  Whatever the layers and the
catalog are, a path is set if and only if it can be forgotten and every value of the other one
followed after it.  Then the values are the same, and so are all layers, unless nothing had to be
done.  It is refused if and only if one of the values is, and with the error of the first one that
is; then layers and caches are what they were. -/
theorem path_is_set_as_followed (p : Parameters κ) (path : List Value) (c : Catalog) :
    ((∃ q, p.setClassifier path c = .ok q) ↔
        ∃ q, p.classifierReset.pushAll path c = .ok q) ∧
      (∀ q q', p.setClassifier path c = .ok q → p.classifierReset.pushAll path c = .ok q' →
        q.layers.path = q'.layers.path ∧ (q = p ∨ q.layers = q'.layers)) ∧
      (∀ e, p.setClassifier path c = .error e ↔
        ∃ earlier value later q, path = earlier ++ value :: later ∧
          p.classifierReset.pushAll earlier c = .ok q ∧ q.classifierPush value c = .error e) ∧
      ∀ e, p.setClassifier path c = .error e → p.after (.setClassifier path c) = p := by
  have hmap : (p.setClassifier path c).map _ = _ := map_path_setClassifier path
  refine ⟨⟨?_, ?_⟩, fun q q' hset hpushed => ?_, fun e => ?_, fun e hrefused => ?_⟩
  · rintro ⟨q, hset⟩
    rw [hset] at hmap
    obtain ⟨q', hpushed, _⟩ := Checked.exists_of_map_ok hmap.symm
    exact ⟨q', hpushed⟩
  · rintro ⟨q, hpushed⟩
    rw [hpushed] at hmap
    obtain ⟨q', hset, _⟩ := Checked.exists_of_map_ok hmap
    exact ⟨q', hset⟩
  · rw [hset, hpushed] at hmap
    obtain ⟨followed, _, rfl⟩ := mayFollow_of_setClassifier_ok hset
    exact ⟨Except.ok.inj hmap, eq_or_layers_eq (Except.ok.inj hmap)
      ((redirects_withPath []).trans (redirects_pushAll path hpushed))⟩
  · rw [Checked.eq_error_iff_of_map_eq hmap]
    exact Checked.foldlM_eq_error_iff path
  · have hperform : p.perform (.setClassifier path c) = .error e := hrefused
    exact after_of_error hperform

end MediaLibrary.Parameters
