/-
Quoting a record.

A search for a text as it stands asks for two things: the record has the terms of the text, and
its search text holds the text in lower case.  A part of the search text of a record fulfils
both.  Its terms are terms of the record, since parts are joined by blanks, which cut no term;
and neither the blanks around it, which are dropped, nor the parts beside it have anything to do
with its lower case, not even where a `Σ` stands at its end.  So whoever searches for the path of
a record, for its title or for one of the texts among its values finds the record.
-/
import MediaLibrary.Proofs.Library.Ungrouped
import MediaLibrary.Proofs.Text.Lowercase

namespace MediaLibrary

/-! ### Parts of the search text -/

namespace Record

variable {r : Record} {text : String}

/-- The text is the path of the record, its title, or one of the values of its properties. -/
def Says (r : Record) (text : String) : Prop :=
  text = r.path ∨ text = r.title ∨ ∃ property, Value.str text ∈ r.values property

/-- A text among the values is searched. -/
theorem mem_propertyTexts {property : String} (h : Value.str text ∈ r.values property) :
    text ∈ r.propertyTexts := by
  have hheld : r.properties[property]? = some (r.values property) :=
    getElem?_of_values_ne_nil (List.ne_nil_of_mem h)
  refine List.mem_flatMap.mpr ⟨(property, r.values property), ?_, ?_⟩
  · exact Std.ExtTreeMap.mem_toList_iff_getElem?_eq_some.mpr hheld
  · exact List.mem_filterMap.mpr ⟨.str text, h, rfl⟩

theorem Says.mem_searchParts (h : r.Says text) : text ∈ r.searchParts := by
  rcases h with rfl | rfl | ⟨property, hvalue⟩
  · simp [searchParts]
  · simp [searchParts]
  · simp [searchParts, mem_propertyTexts hvalue]

/-- **A text that is part of the search text is found as it stands.** -/
theorem finds_of_mem_searchParts (h : text ∈ r.searchParts) (hterms : Text.terms text ≠ []) :
    Search.Finds ⟨text, .exact⟩ r := by
  refine ⟨⟨hterms, fun term hterm => ?_⟩, ?_⟩
  · exact Text.mem_terms_intercalate.mpr ⟨text, h, hterm⟩
  · exact (Text.lowercase_trim_isInfix text).trans (Text.lowercase_infix_intercalate h)

end Record

namespace Library

open LibraryM

/-- **Exact search finds what it quotes.**  After any run, refused operations included, and with
any layers that do not group, a record of one of the sources is shown by a view that searches for
a text as it stands, if the text has terms and is the path of the record, its title or one of its
text values.  The selector, if there is one, has to choose the record. -/
theorem quoted_record_is_shown (operations : List LibraryOperation) {layers : Layers}
    (hgrouping : layers.grouping = none) {r : Record}
    (hstored : (afterAll operations).store.get? r.id = some r)
    (hsource : FromSources layers.sources r) {text : String} (htext : r.Says text)
    (hterms : Text.terms text ≠ []) (hsearch : layers.search = some ⟨text, .exact⟩)
    {selector : Option Selector} (hselected : ∀ s ∈ selector, s.selects r.id = true)
    (size : UInt64) :
    ∃ number result,
      view ⟨size, number, selector⟩ ((afterAll operations).withLayers layers) =
        .ok result ((afterAll operations).withLayers layers) ∧ r ∈ result.page.records := by
  have hsound : ((afterAll operations).withLayers layers).store.Sound :=
    (sound_afterAll operations).store
  obtain ⟨filter, hfilter⟩ := ((afterAll operations).withLayers layers).exists_filter
  have hpages := showsRecords hsound hgrouping hfilter selector size
  have hsearched : SearchedFor layers.search r := by
    intro s hs _
    cases hsearch.symm.trans hs
    exact r.finds_of_mem_searchParts htext.mem_searchParts hterms
  have hlisted := (hpages.listed r).mpr ⟨hstored, hsource, hsearched, hselected⟩
  obtain ⟨result, hresult, hr⟩ := List.mem_flatMap.mp hlisted
  obtain ⟨k, hk⟩ := List.mem_iff_getElem?.mp hresult
  exact ⟨UInt64.ofNat k, result, hpages.shown k result hk, hr⟩

/-- A title with words that end in a capital sigma, and with a blank at its end. -/
theorem title_in_capitals_is_shown :
    let r : Record := { id := 2, path := "/a/two.mkv", title := "ΑΣ (ΟΔΟΣ) " }
    let operations : List LibraryOperation :=
      [.importRecords [{ path := "/a/one.mkv" }, { path := "/a/two.mkv", title := r.title }]]
    let layers : Layers := { Layers.default with search := some ⟨r.title, .exact⟩ }
    let l := (afterAll operations).withLayers layers
    ∃ number result, view ⟨1, number, none⟩ l = .ok result l ∧ r ∈ result.page.records := by
  intro r operations layers l
  refine quoted_record_is_shown operations rfl ?_ ?_ (.inr (.inl rfl)) ?_ rfl ?_ 1
  · show (afterAll operations).store.get? 2 = some r
    decide +kernel
  · show FromSources layers.sources r
    decide
  · show Text.terms "ΑΣ (ΟΔΟΣ) " ≠ []
    decide +kernel
  · simp

end Library

end MediaLibrary
