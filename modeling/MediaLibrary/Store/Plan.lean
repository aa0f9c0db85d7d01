/-
Plans for filters.

Some conditions are answered by the indices: those on identifiers and on tags.  A plan
splits a filter into a set of candidates that meet such conditions and the rest, which
is tried on each candidate.  Where no condition can be answered by an index, every
record is a candidate.
-/
import MediaLibrary.Query.Compile
import MediaLibrary.Store.Basic

namespace MediaLibrary

open Std

/-- Candidates, or none if every record is one, and the filter left to be tried on
them. -/
structure Plan where
  candidates : Option IdSet
  residual : Filter

namespace Plan

/-- The conditions that a filter joins. -/
def conditions : Filter → List Filter
  | .and parts => parts
  | filter => [filter]

/-- The records that meet a condition, if an index or the condition itself lists them. -/
def lookup? (s : Store) : Filter → Option IdSet
  | .never => some ∅
  | .idIn ids => some ids
  | .holds property value => some (s.withTag property value)
  | .holdsAll property values =>
    if values.isEmpty then none else some (s.withTags property values)
  | _ => none

/-- Fewer candidates, if there are some already. -/
def narrow (candidates : Option IdSet) (ids : IdSet) : Option IdSet :=
  some (candidates.elim ids (· ∩ ids))

/-- The plan of a filter. -/
def ofFilter (s : Store) (filter : Filter) : Plan :=
  let conditions := conditions filter
  { candidates := (conditions.filterMap (lookup? s)).foldl narrow none
    residual := .all (conditions.filter fun c => (lookup? s c).isNone) }

/-- Whether the plan is known to have no records. -/
def isEmpty (p : Plan) : Bool :=
  p.residual.isNever || p.candidates.any (·.isEmpty)

/-- The records to be tried. -/
def source (p : Plan) (s : Store) : List Record :=
  match p.candidates with
  | some ids => s.recordsOf ids
  | none => s.toList

/-- The records of the plan. -/
def run (p : Plan) (s : Store) : List Record :=
  if p.isEmpty then [] else (p.source s).filter fun r => p.residual.accepts r

end Plan

/-- The records that a filter accepts, in the order of their identifiers. -/
def Store.select (s : Store) (filter : Filter) : List Record :=
  (Plan.ofFilter s filter).run s

/-- The store as an index of terms. -/
def Store.termIndex (s : Store) : TermIndex := fun terms mode =>
  .ok (s.withTerms terms mode)

end MediaLibrary
