/-
What filters accept that were built.

Filters are brought into a normal form as they are built: constants disappear, and
conjunctions and disjunctions are flattened.  None of that changes which records are
accepted: a conjunction accepts what all of its parts accept, and a disjunction what one of
them accepts.  The filter of some sources can then be read off the flags of a record.
-/
import MediaLibrary.Query.Compile

namespace MediaLibrary

namespace Filter

theorem acceptsEach_iff {r : Record} {parts : List Filter} :
    acceptsEach r parts = true ↔ ∀ part ∈ parts, part.accepts r = true := by
  induction parts with
  | nil => simp [acceptsEach]
  | cons part rest ih => simp [acceptsEach, ih]

theorem acceptsEach_append (r : Record) (parts rest : List Filter) :
    acceptsEach r (parts ++ rest) = (acceptsEach r parts && acceptsEach r rest) := by
  induction parts with
  | nil => simp [acceptsEach]
  | cons part parts ih => rw [List.cons_append, acceptsEach, acceptsEach, ih, Bool.and_assoc]

/-- Flattening a conjunction leaves what it accepts; a conjunction that cannot be met has no
parts left. -/
private theorem acceptsEach_conjuncts (r : Record) (parts : List Filter) :
    (conjuncts? parts).any (acceptsEach r) = acceptsEach r parts := by
  fun_induction conjuncts? parts with
  | case1 => rfl
  | case2 rest ih =>
      rw [ih]
      simp [acceptsEach, accepts]
  | case3 rest => simp [acceptsEach, accepts]
  | case4 inner rest ih =>
      rw [acceptsEach, accepts, ← ih]
      cases conjuncts? rest with
      | none => simp
      | some parts => simp [acceptsEach_append]
  | case5 part rest _ _ _ ih =>
      rw [acceptsEach, ← ih]
      cases conjuncts? rest with
      | none => simp
      | some parts => simp [acceptsEach]

/-- **A conjunction accepts what all of its parts accept.** -/
@[simp] theorem accepts_all (r : Record) (parts : List Filter) :
    (all parts).accepts r = acceptsEach r parts := by
  rw [← acceptsEach_conjuncts, all]
  cases conjuncts? parts with
  | none => rfl
  | some parts =>
      match parts with
      | [] => rfl
      | [part] => simp [acceptsEach]
      | part :: next :: rest => rfl

theorem acceptsSome_iff {r : Record} {parts : List Filter} :
    acceptsSome r parts = true ↔ ∃ part ∈ parts, part.accepts r = true := by
  induction parts with
  | nil => simp [acceptsSome]
  | cons part rest ih => simp [acceptsSome, ih]

theorem acceptsSome_append (r : Record) (parts rest : List Filter) :
    acceptsSome r (parts ++ rest) = (acceptsSome r parts || acceptsSome r rest) := by
  induction parts with
  | nil => simp [acceptsSome]
  | cons part parts ih => rw [List.cons_append, acceptsSome, acceptsSome, ih, Bool.or_assoc]

/-- Flattening a disjunction leaves what it accepts; a disjunction that is always met has no
parts left. -/
private theorem acceptsSome_disjuncts (r : Record) (parts : List Filter) :
    (disjuncts? parts).all (acceptsSome r) = acceptsSome r parts := by
  fun_induction disjuncts? parts with
  | case1 => rfl
  | case2 rest ih =>
      rw [ih]
      simp [acceptsSome, accepts]
  | case3 rest => simp [acceptsSome, accepts]
  | case4 inner rest ih =>
      rw [acceptsSome, accepts, ← ih]
      cases disjuncts? rest with
      | none => simp
      | some parts => simp [acceptsSome_append]
  | case5 part rest _ _ _ ih =>
      rw [acceptsSome, ← ih]
      cases disjuncts? rest with
      | none => simp
      | some parts => simp [acceptsSome]

/-- **A disjunction accepts what one of its parts accepts.** -/
@[simp] theorem accepts_any (r : Record) (parts : List Filter) :
    (any parts).accepts r = acceptsSome r parts := by
  rw [← acceptsSome_disjuncts, any]
  cases disjuncts? parts with
  | none => rfl
  | some parts =>
      match parts with
      | [] => rfl
      | [part] => simp [acceptsSome]
      | part :: next :: rest => rfl

theorem accepts_negate (r : Record) (f : Filter) : f.negate.accepts r = !f.accepts r := by
  cases f <;> simp [negate, accepts]

end Filter

/-! ### Sources -/

/-- A record comes from a source path if it is in all of its states. -/
theorem SourcePath.accepts_filter (p : SourcePath) (r : Record) :
    p.filter.accepts r =
      p.segments.all fun s => r.flags.get s.condition.1 == s.condition.2 := by
  rw [SourcePath.filter, Filter.accepts_all]
  induction p.segments with
  | nil => rfl
  | cons s rest ih =>
      rw [List.map_cons, Filter.acceptsEach, ih]
      rfl

/-- A record comes from some sources if it comes from one of the paths. -/
theorem accepts_sourcesFilter (sources : List SourcePath) (r : Record) :
    (sourcesFilter sources).accepts r = sources.any fun p => p.filter.accepts r := by
  rw [sourcesFilter, Filter.accepts_any]
  induction sources with
  | nil => rfl
  | cons p rest ih => rw [List.map_cons, Filter.acceptsSome, ih, List.any_cons]

/-- Where nothing is searched for, only the sources select. -/
theorem TermIndex.accepts_viewFilter_none {index : TermIndex} {sources : List SourcePath}
    {filter : Filter} (h : index.viewFilter sources none = .ok filter) (r : Record) :
    filter.accepts r = (sourcesFilter sources).accepts r := by
  unfold viewFilter at h
  dsimp only at h
  split at h
  · rename_i hnever
    cases h
    cases hsources : sourcesFilter sources with
    | never => rfl
    | _ => simp [hsources, Filter.isNever] at hnever
  · cases h
    simp [Filter.acceptsEach, Filter.accepts]

end MediaLibrary
