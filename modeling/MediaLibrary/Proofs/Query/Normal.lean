/-
The normal form of filters.

Those who take filters apart rely on how they are built.  A plan looks for the conditions that an
index answers among the parts of a conjunction and no deeper, and a view from no sources is known
by its filter being `never`.  `Normal` says what they may rely on: no constant inside anything,
nothing directly inside its own kind, and no conjunction or disjunction of fewer than two parts.

Conjunctions and disjunctions are built alike, with the constants in opposite roles, so what is
said here of one of them is said of both by naming the `Combination`.  Filters that are built of
filters in normal form are in normal form again, and the functions that make filters of the layers
of a view do nothing but build.
-/
import MediaLibrary.Proofs.Checked
import MediaLibrary.Proofs.Query.Filter

namespace MediaLibrary

namespace Filter

/-- The filter may stand directly inside what is made in some way: it is no constant, and not made
in the same way itself. -/
structure FitsIn {α : Type} (make : α → Filter) (f : Filter) : Prop where
  not_always : f ≠ always
  not_never : f ≠ never
  other : ∀ inner, f ≠ make inner

/-- The filter has no other filters inside. -/
def isLeaf : Filter → Bool
  | and _ => false
  | or _ => false
  | not _ => false
  | _ => true

/-- Nothing in the filter could be folded. -/
inductive Normal : Filter → Prop
  | leaf {f : Filter} (hleaf : f.isLeaf = true) : Normal f
  | and {parts : List Filter} (hseveral : 2 ≤ parts.length)
      (hparts : ∀ part ∈ parts, Normal part) (hfits : ∀ part ∈ parts, part.FitsIn and) :
      Normal (and parts)
  | or {parts : List Filter} (hseveral : 2 ≤ parts.length)
      (hparts : ∀ part ∈ parts, Normal part) (hfits : ∀ part ∈ parts, part.FitsIn or) :
      Normal (or parts)
  | not {part : Filter} (hpart : Normal part) (hfits : part.FitsIn not) : Normal (not part)

end Filter

/-! ### Both combinations -/

namespace Combination

/-- The filter of some parts as they are. -/
def join : Combination → List Filter → Filter
  | all => .and
  | any => .or

/-- The filter of some parts in normal form. -/
def build : Combination → List Filter → Filter
  | all => .all
  | any => .any

/-- The parts that are left when constants disappear and parts of the same kind are spread. -/
def fold? : Combination → List Filter → Option (List Filter)
  | all => Filter.conjuncts?
  | any => Filter.disjuncts?

/-- The constant that makes no difference among the parts. -/
def neutral : Combination → Filter
  | all => .always
  | any => .never

/-- The constant that decides whatever the other parts are. -/
def deciding : Combination → Filter
  | all => .never
  | any => .always

variable {c : Combination} {parts left : List Filter} {part : Filter}

/-! ### Folding -/

theorem build_eq (c : Combination) (parts : List Filter) :
    c.build parts = match c.fold? parts with
      | none => c.deciding
      | some [] => c.neutral
      | some [part] => part
      | some parts => c.join parts := by
  cases c <;> rfl

theorem fold?_nil : c.fold? [] = some [] := by cases c <;> rfl

theorem fold?_neutral : c.fold? (c.neutral :: parts) = c.fold? parts := by cases c <;> rfl

theorem fold?_deciding : c.fold? (c.deciding :: parts) = none := by cases c <;> rfl

theorem fold?_join (inner : List Filter) :
    c.fold? (c.join inner :: parts) = (c.fold? parts).map (inner ++ ·) := by
  cases c <;> rfl

theorem fold?_cons_of_fitsIn (h : part.FitsIn c.join) :
    c.fold? (part :: parts) = (c.fold? parts).map (part :: ·) := by
  obtain ⟨halways, hnever, hother⟩ := h
  cases c with
  | all =>
      show Filter.conjuncts? (part :: parts) = (Filter.conjuncts? parts).map (part :: ·)
      rw [Filter.conjuncts?] <;> assumption
  | any =>
      show Filter.disjuncts? (part :: parts) = (Filter.disjuncts? parts).map (part :: ·)
      rw [Filter.disjuncts?] <;> assumption

/-- What a part of a combination may be. -/
theorem part_cases (c : Combination) (part : Filter) :
    part = c.neutral ∨ part = c.deciding ∨ (∃ inner, part = c.join inner) ∨
      part.FitsIn c.join := by
  by_cases hneutral : part = c.neutral
  · exact .inl hneutral
  by_cases hdeciding : part = c.deciding
  · exact .inr (.inl hdeciding)
  by_cases hjoin : ∃ inner, part = c.join inner
  · exact .inr (.inr (.inl hjoin))
  have hother : ∀ inner, part ≠ c.join inner := fun inner h => hjoin ⟨inner, h⟩
  cases c with
  | all => exact .inr (.inr (.inr ⟨hneutral, hdeciding, hother⟩))
  | any => exact .inr (.inr (.inr ⟨hdeciding, hneutral, hother⟩))

theorem normal_join_iff :
    (c.join parts).Normal ↔
      2 ≤ parts.length ∧ ∀ part ∈ parts, part.Normal ∧ part.FitsIn c.join := by
  constructor
  · intro h
    cases c with
    | all =>
        cases h with
        | leaf hleaf => cases hleaf
        | and hseveral hparts hfits =>
            exact ⟨hseveral, fun part hpart => ⟨hparts part hpart, hfits part hpart⟩⟩
    | any =>
        cases h with
        | leaf hleaf => cases hleaf
        | or hseveral hparts hfits =>
            exact ⟨hseveral, fun part hpart => ⟨hparts part hpart, hfits part hpart⟩⟩
  · rintro ⟨hseveral, h⟩
    have hparts : ∀ part ∈ parts, part.Normal := fun part hpart => (h part hpart).1
    cases c with
    | all => exact .and hseveral hparts fun part hpart => (h part hpart).2
    | any => exact .or hseveral hparts fun part hpart => (h part hpart).2

theorem neutral_ne_deciding : c.neutral ≠ c.deciding := by cases c <;> exact nofun

theorem join_ne_neutral : c.join parts ≠ c.neutral := by cases c <;> exact nofun

theorem join_ne_deciding : c.join parts ≠ c.deciding := by cases c <;> exact nofun

theorem ne_neutral_of_fitsIn (h : part.FitsIn c.join) : part ≠ c.neutral := by
  cases c with
  | all => exact h.not_always
  | any => exact h.not_never

theorem ne_deciding_of_fitsIn (h : part.FitsIn c.join) : part ≠ c.deciding := by
  cases c with
  | all => exact h.not_never
  | any => exact h.not_always

theorem normal_neutral : c.neutral.Normal := by cases c <;> exact .leaf rfl

theorem normal_deciding : c.deciding.Normal := by cases c <;> exact .leaf rfl

/-! ### What is built -/

/-- Folding ends early at the constant that decides, and only there. -/
theorem fold?_eq_none_iff : c.fold? parts = none ↔ c.deciding ∈ parts := by
  induction parts with
  | nil => simp [fold?_nil]
  | cons part rest ih =>
      rw [List.mem_cons]
      rcases c.part_cases part with rfl | rfl | ⟨inner, rfl⟩ | hfits
      · rw [fold?_neutral, ih, or_iff_right neutral_ne_deciding.symm]
      · simp [fold?_deciding]
      · rw [fold?_join, Option.map_eq_none_iff, ih, or_iff_right join_ne_deciding.symm]
      · rw [fold?_cons_of_fitsIn hfits, Option.map_eq_none_iff, ih,
          or_iff_right (ne_deciding_of_fitsIn hfits).symm]

/-- **What is left fits inside.** -/
theorem fits_of_fold? (h : ∀ part ∈ parts, part.Normal) :
    ∀ {left : List Filter}, c.fold? parts = some left →
      ∀ part ∈ left, part.Normal ∧ part.FitsIn c.join := by
  induction parts with
  | nil =>
      intro left hleft
      rw [fold?_nil] at hleft
      cases hleft
      exact fun _ hpart => absurd hpart List.not_mem_nil
  | cons part rest ih =>
      intro left hleft
      obtain ⟨hpart, hrest⟩ := List.forall_mem_cons.mp h
      rcases c.part_cases part with rfl | rfl | ⟨inner, rfl⟩ | hfits
      · rw [fold?_neutral] at hleft
        exact ih hrest hleft
      · rw [fold?_deciding] at hleft
        cases hleft
      · rw [fold?_join] at hleft
        obtain ⟨others, hothers, rfl⟩ := Option.map_eq_some_iff.mp hleft
        exact List.forall_mem_append.mpr ⟨(normal_join_iff.mp hpart).2, ih hrest hothers⟩
      · rw [fold?_cons_of_fitsIn hfits] at hleft
        obtain ⟨others, hothers, rfl⟩ := Option.map_eq_some_iff.mp hleft
        exact List.forall_mem_cons.mpr ⟨⟨hpart, hfits⟩, ih hrest hothers⟩

/-- **What is built of filters in normal form is in normal form.** -/
theorem normal_build (h : ∀ part ∈ parts, part.Normal) : (c.build parts).Normal := by
  rw [build_eq]
  cases hleft : c.fold? parts with
  | none => exact normal_deciding
  | some left =>
      have hfits := fits_of_fold? h hleft
      match left with
      | [] => exact normal_neutral
      | [part] => exact (hfits part List.mem_cons_self).1
      | part :: next :: rest => exact normal_join_iff.mpr ⟨by simp, hfits⟩

/-- Nothing is left where there was nothing but the constant that makes no difference.  Parts of
the same kind that are spread are not empty. -/
theorem fold?_eq_some_nil_iff (h : ∀ part ∈ parts, part.Normal) :
    c.fold? parts = some [] ↔ ∀ part ∈ parts, part = c.neutral := by
  induction parts with
  | nil => simp [fold?_nil]
  | cons part rest ih =>
      obtain ⟨hpart, hrest⟩ := List.forall_mem_cons.mp h
      rw [List.forall_mem_cons]
      rcases c.part_cases part with rfl | rfl | ⟨inner, rfl⟩ | hfits
      · rw [fold?_neutral, ih hrest, and_iff_right rfl]
      · exact iff_of_false (by simp [fold?_deciding]) fun h => neutral_ne_deciding h.1.symm
      · have hseveral := (normal_join_iff.mp hpart).1
        refine iff_of_false (fun hnil => ?_) fun h => join_ne_neutral h.1
        rw [fold?_join] at hnil
        obtain ⟨others, _, happend⟩ := Option.map_eq_some_iff.mp hnil
        rw [(List.append_eq_nil_iff.mp happend).1] at hseveral
        cases hseveral
      · refine iff_of_false (fun hnil => ?_) fun h => ne_neutral_of_fitsIn hfits h.1
        rw [fold?_cons_of_fitsIn hfits] at hnil
        simp at hnil

/-- **Which constant is built**: the one that decides if it is among the parts, and the other one
if there is nothing else. -/
theorem build_eq_constant_iff (h : ∀ part ∈ parts, part.Normal) :
    (c.build parts = c.deciding ↔ c.deciding ∈ parts) ∧
      (c.build parts = c.neutral ↔ ∀ part ∈ parts, part = c.neutral) := by
  rw [← fold?_eq_none_iff, ← fold?_eq_some_nil_iff h, build_eq]
  cases hleft : c.fold? parts with
  | none => simp [neutral_ne_deciding.symm]
  | some left =>
      have hfits := fits_of_fold? h hleft
      match left with
      | [] => simp [neutral_ne_deciding]
      | [part] =>
          have hpart := (hfits part List.mem_cons_self).2
          simp [ne_deciding_of_fitsIn hpart, ne_neutral_of_fitsIn hpart]
      | part :: next :: rest => simp [join_ne_deciding, join_ne_neutral]

end Combination

namespace Filter

variable {f : Filter}

/-- The opposite of a filter in normal form is in normal form. -/
theorem normal_negate (h : f.Normal) : f.negate.Normal := by
  cases h with
  | leaf hleaf =>
      have hfits : f ≠ always → f ≠ never → (not f).Normal := fun halways hnever =>
        .not (.leaf hleaf) ⟨halways, hnever, by rintro _ rfl; cases hleaf⟩
      cases f <;> first | exact .leaf rfl | exact hfits nofun nofun | cases hleaf
  | and hseveral hparts hfits => exact .not (.and hseveral hparts hfits) ⟨nofun, nofun, nofun⟩
  | or hseveral hparts hfits => exact .not (.or hseveral hparts hfits) ⟨nofun, nofun, nofun⟩
  | not hpart hfits => exact hpart

end Filter

/-! ### Layers -/

theorem SourcePath.normal_conditions (p : SourcePath) :
    ∀ part ∈ p.segments.map SourceSegment.filter, part.Normal := by
  intro part hpart
  obtain ⟨segment, _, rfl⟩ := List.mem_map.mp hpart
  exact .leaf rfl

theorem SourcePath.normal_filter (p : SourcePath) : p.filter.Normal :=
  Combination.normal_build (c := .all) p.normal_conditions

/-- There is no state in which no record can be. -/
theorem SourcePath.filter_ne_never (p : SourcePath) : p.filter ≠ .never := by
  intro hnever
  obtain ⟨segment, _, hsegment⟩ := List.mem_map.mp
    ((Combination.build_eq_constant_iff (c := .all) p.normal_conditions).1.mp hnever)
  cases hsegment

theorem normal_paths (sources : List SourcePath) :
    ∀ part ∈ sources.map SourcePath.filter, part.Normal := by
  intro part hpart
  obtain ⟨p, _, rfl⟩ := List.mem_map.mp hpart
  exact p.normal_filter

theorem normal_sourcesFilter (sources : List SourcePath) : (sourcesFilter sources).Normal :=
  Combination.normal_build (c := .any) (normal_paths sources)

/-- **Only from no sources at all no record can come.** -/
theorem sourcesFilter_eq_never_iff {sources : List SourcePath} :
    sourcesFilter sources = .never ↔ sources = [] := by
  refine (Combination.build_eq_constant_iff (c := .any) (normal_paths sources)).2.trans ?_
  constructor
  · intro hnever
    cases sources with
    | nil => rfl
    | cons p rest => exact absurd (hnever p.filter List.mem_cons_self) p.filter_ne_never
  · rintro rfl
    simp

namespace TermIndex

variable {index : TermIndex} {filter : Filter}

theorem normal_textFilter {text : String} {mode : Combination}
    (h : index.textFilter text mode = .ok filter) : filter.Normal := by
  unfold textFilter at h
  split at h
  · cases h
    exact .leaf rfl
  · obtain ⟨ids, _, rfl⟩ := Checked.exists_of_map_ok h
    exact .leaf rfl

theorem normal_searchFilter {search : Option Search}
    (h : index.searchFilter search = .ok filter) : filter.Normal := by
  unfold searchFilter at h
  split at h
  · cases h
    exact .leaf rfl
  split at h
  · cases h
    exact .leaf rfl
  dsimp only at h
  split at h
  · split at h <;> cases h <;> exact .leaf rfl
  · exact normal_textFilter h
  · exact normal_textFilter h
  · obtain ⟨terms, hterms, h⟩ := Checked.exists_of_bind_ok h
    cases h
    refine Combination.normal_build (c := .all) ?_
    simpa using ⟨normal_textFilter hterms, .leaf rfl⟩

theorem normal_viewFilter {sources : List SourcePath} {search : Option Search}
    (h : index.viewFilter sources search = .ok filter) : filter.Normal := by
  unfold viewFilter at h
  dsimp only at h
  split at h
  · cases h
    exact .leaf rfl
  · obtain ⟨bySearch, hsearch, rfl⟩ := Checked.exists_of_map_ok h
    refine Combination.normal_build (c := .all) ?_
    simpa using ⟨normal_sourcesFilter sources, normal_searchFilter hsearch⟩

end TermIndex

namespace Filter

/-- **Filters mean what they are built of, and are in normal form.**  A conjunction accepts a
record if and only if all of its parts do, a disjunction if and only if one of them does, and the
opposite of a filter if and only if the filter does not.  What is built of filters in normal form
is in normal form.  So the filter of the sources is, which is `never` for no sources and only then,
and so is every filter that is made of sources and a search. -/
theorem built_filters_are_normal :
    (∀ parts r, ((all parts).accepts r = true ↔ ∀ part ∈ parts, part.accepts r = true) ∧
        ((any parts).accepts r = true ↔ ∃ part ∈ parts, part.accepts r = true)) ∧
      (∀ (f : Filter) r, f.negate.accepts r = true ↔ ¬f.accepts r = true) ∧
      (∀ parts, (∀ part ∈ parts, part.Normal) → (all parts).Normal ∧ (any parts).Normal) ∧
      (∀ f : Filter, f.Normal → f.negate.Normal) ∧
      (∀ sources, (sourcesFilter sources).Normal ∧
        (sourcesFilter sources = never ↔ sources = [])) ∧
      ∀ (index : TermIndex) sources search filter,
        index.viewFilter sources search = .ok filter → filter.Normal := by
  refine ⟨fun parts r => ⟨?_, ?_⟩, fun f r => ?_, fun parts h => ⟨?_, ?_⟩, fun f => normal_negate,
    fun sources => ⟨normal_sourcesFilter sources, sourcesFilter_eq_never_iff⟩,
    fun index sources search filter => TermIndex.normal_viewFilter⟩
  · rw [accepts_all, acceptsEach_iff]
  · rw [accepts_any, acceptsSome_iff]
  · simp [accepts_negate]
  · exact Combination.normal_build (c := .all) h
  · exact Combination.normal_build (c := .any) h

end Filter

end MediaLibrary
