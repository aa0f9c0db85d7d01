/-
What a search finds.

A search is carried out by filters and an index of terms.  What it is meant to find can be said
without either, of one record and the text that was searched for: the record has the terms of
the text, or one of them, or holds the text as it stands, or has the identifier that the text
writes.  A text without terms finds nothing, and a blank text does not search at all.
-/
import MediaLibrary.Proofs.Checked
import MediaLibrary.Proofs.Query.Filter
import MediaLibrary.Proofs.Store.Lookups
import MediaLibrary.Proofs.Text.Terms
import MediaLibrary.Store.Plan

namespace MediaLibrary

/-! ### Texts in texts -/

theorem Filter.occursIn_iff (needle text : List Char) :
    Filter.occursIn needle text = true ↔ needle <:+: text := by
  induction text with
  | nil => simp [Filter.occursIn, List.infix_nil, List.isEmpty_iff]
  | cons c rest ih =>
      rw [Filter.occursIn, Bool.or_eq_true, ih, List.isPrefixOf_iff_prefix, List.infix_cons_iff]

theorem Filter.accepts_containsText {text : String} {r : Record} :
    (containsText text).accepts r = true ↔
      (Text.lowercase text).toList <:+: (Text.lowercase r.searchText).toList := by
  rw [containsText, accepts, occursIn_iff, Text.lowercase, Text.lowercase, String.toList_ofList,
    String.toList_ofList]

/-! ### Identifiers -/

theorem Filter.accepts_idIn_singleton {id : RecordId} {r : Record} :
    (idIn (.ofList [id] compare)).accepts r = true ↔ id = r.id := by
  rw [accepts, Std.ExtTreeSet.contains_ofList, List.contains_iff_mem, List.mem_singleton, eq_comm]

/-! ### What is meant to be found -/

/-- The text has terms, and each of them is one of the record. -/
def Record.HasTermsOf (r : Record) (text : String) : Prop :=
  Text.terms text ≠ [] ∧ ∀ term ∈ Text.terms text, term ∈ r.terms

instance (r : Record) (text : String) : Decidable (r.HasTermsOf text) :=
  inferInstanceAs (Decidable (_ ∧ _))

theorem Record.hasTermsOf_trim {r : Record} {text : String} :
    r.HasTermsOf (Text.trim text) ↔ r.HasTermsOf text := by
  rw [HasTermsOf, HasTermsOf, Text.terms_trim]

/-- The record is meant to be found by the search. -/
def Search.Finds (s : Search) (r : Record) : Prop :=
  match s.condition with
  | .id => Text.unsigned64? (Text.trim s.text) = some r.id
  | .and => r.HasTermsOf s.text
  | .or => ∃ term ∈ Text.terms s.text, term ∈ r.terms
  | .exact => r.HasTermsOf s.text ∧
      (Text.lowercase (Text.trim s.text)).toList <:+: (Text.lowercase r.searchText).toList

instance (r : Record) : (s : Search) → Decidable (s.Finds r)
  | ⟨text, .id⟩ => inferInstanceAs (Decidable (Text.unsigned64? (Text.trim text) = some r.id))
  | ⟨text, .and⟩ => inferInstanceAs (Decidable (r.HasTermsOf text))
  | ⟨text, .or⟩ => inferInstanceAs (Decidable (∃ term ∈ Text.terms text, term ∈ r.terms))
  | ⟨text, .exact⟩ =>
    inferInstanceAs (Decidable (r.HasTermsOf text ∧
      (Text.lowercase (Text.trim text)).toList <:+: (Text.lowercase r.searchText).toList))

/-- The record is found, or nothing is searched for. -/
def SearchedFor (search : Option Search) (r : Record) : Prop :=
  ∀ s ∈ search, s.isBlank = false → s.Finds r

instance (search : Option Search) (r : Record) : Decidable (SearchedFor search r) :=
  inferInstanceAs (Decidable (∀ s ∈ search, _))

/-- The record is in all states of one of the paths. -/
def FromSources (sources : List SourcePath) (r : Record) : Prop :=
  ∃ p ∈ sources, ∀ segment ∈ p.segments, r.flags.get segment.condition.1 = segment.condition.2

instance (sources : List SourcePath) (r : Record) : Decidable (FromSources sources r) :=
  inferInstanceAs (Decidable (∃ p ∈ sources, _))

theorem fromSources_iff {sources : List SourcePath} {r : Record} :
    FromSources sources r ↔ (sourcesFilter sources).accepts r = true := by
  simp [accepts_sourcesFilter, SourcePath.accepts_filter, FromSources]

namespace Store

variable {s : Store} {r : Record} {filter : Filter}

/-! ### What the filters accept -/

/-- The filter of a text asks the index for its terms. -/
private theorem accepts_textFilter {text : String} {mode : Combination}
    (hfilter : s.termIndex.textFilter text mode = .ok filter) :
    filter.accepts r = true ↔
      Text.terms text ≠ [] ∧ r.id ∈ s.withTerms (Text.terms text) mode := by
  unfold TermIndex.textFilter at hfilter
  split at hfilter
  · rename_i hnone
    cases hfilter
    simp [hnone, Filter.accepts]
  · rename_i hsome
    cases hfilter
    simpa [Filter.accepts] using fun _ => hsome

theorem Sound.accepts_textFilter_all (h : s.Sound) (hr : r ∈ s.toList) {text : String}
    (hfilter : s.termIndex.textFilter text .all = .ok filter) :
    filter.accepts r = true ↔ r.HasTermsOf text := by
  rw [accepts_textFilter hfilter, Record.HasTermsOf]
  refine and_congr_right fun hne => ?_
  rw [h.withTerms_all_eq hne, h.id_mem_setWhere hr]
  simp

theorem Sound.accepts_textFilter_any (h : s.Sound) (hr : r ∈ s.toList) {text : String}
    (hfilter : s.termIndex.textFilter text .any = .ok filter) :
    filter.accepts r = true ↔ ∃ term ∈ Text.terms text, term ∈ r.terms := by
  rw [accepts_textFilter hfilter, h.withTerms_any_eq, h.id_mem_setWhere hr]
  simp only [List.any_eq_true, decide_eq_true_eq]
  exact and_iff_right_of_imp fun ⟨_, hterm, _⟩ => List.ne_nil_of_mem hterm

theorem Sound.accepts_searchFilter (h : s.Sound) (hr : r ∈ s.toList) {search : Option Search}
    (hfilter : s.termIndex.searchFilter search = .ok filter) :
    filter.accepts r = true ↔ SearchedFor search r := by
  unfold TermIndex.searchFilter at hfilter
  cases search with
  | none =>
      cases hfilter
      simp [Filter.accepts, SearchedFor]
  | some search =>
      dsimp only at hfilter
      split at hfilter
      · rename_i hblank
        cases hfilter
        simp [Filter.accepts, SearchedFor, hblank]
      · rename_i htext
        have hsearched : SearchedFor (some search) r ↔ search.Finds r := by
          simp [SearchedFor, htext]
        rw [hsearched, Search.Finds]
        -- The text is looked up without the blanks around it, which have no part in its terms.
        cases hcondition : search.condition with
        | id =>
            simp only [hcondition] at hfilter
            cases hid : Text.unsigned64? (Text.trim search.text) with
            | none =>
                rw [hid] at hfilter
                cases hfilter
                simp [Filter.accepts]
            | some id =>
                rw [hid] at hfilter
                cases hfilter
                rw [Filter.accepts_idIn_singleton, Option.some.injEq]
        | and =>
            simp only [hcondition] at hfilter
            rw [h.accepts_textFilter_all hr hfilter, Record.hasTermsOf_trim]
        | or =>
            simp only [hcondition] at hfilter
            rw [h.accepts_textFilter_any hr hfilter, Text.terms_trim]
        | exact =>
            simp only [hcondition] at hfilter
            obtain ⟨terms, hterms, hfilter⟩ := Checked.exists_of_bind_ok hfilter
            cases hfilter
            have hall := h.accepts_textFilter_all hr hterms
            rw [Record.hasTermsOf_trim] at hall
            rw [Filter.accepts_all, Filter.acceptsEach, Filter.acceptsEach, Filter.acceptsEach,
              Bool.and_true, Bool.and_eq_true, Filter.accepts_containsText, hall]

/-- **The filter of a view accepts what comes from its sources and is searched for.** -/
theorem Sound.accepts_viewFilter (h : s.Sound) (hr : r ∈ s.toList) {sources : List SourcePath}
    {search : Option Search} (hfilter : s.termIndex.viewFilter sources search = .ok filter) :
    filter.accepts r = true ↔ FromSources sources r ∧ SearchedFor search r := by
  unfold TermIndex.viewFilter at hfilter
  dsimp only at hfilter
  rw [fromSources_iff]
  split at hfilter
  · rename_i hnever
    cases hfilter
    cases hsources : sourcesFilter sources with
    | never => simp [Filter.accepts]
    | _ => simp [hsources, Filter.isNever] at hnever
  · cases hsearch : s.termIndex.searchFilter search with
    | error e =>
        rw [hsearch] at hfilter
        cases hfilter
    | ok bySearch =>
        rw [hsearch] at hfilter
        cases hfilter
        rw [Filter.accepts_all, ← h.accepts_searchFilter hr hsearch]
        simp [Filter.acceptsEach]

end Store

end MediaLibrary
