/-
Pages that are asked for.

A page is answered with numbers on the view, on the selection and on itself.  `Page.Answers`
says which numbers these are and how many records the page has, for any request: one that asks
for a page beyond the last is answered with the last one, and a page size of zero counts as one.

The place where a page begins in the selection is a product of two machine numbers.  It is never
beyond the end of the selection, so it is a machine number too, as long as there is one for the
length of the view.
-/
import Mathlib.Algebra.Order.BigOperators.Group.List
import Mathlib.Algebra.Order.Floor.Div
import Mathlib.Data.Rat.Floor
import MediaLibrary.Proofs.View.Page

namespace MediaLibrary

/-! ### The number of pages -/

/-- There are as many pages as the records take, and at least one. -/
theorem pageCount_eq_ceil {size : Nat} (hsize : 0 < size) (count : Nat) :
    pageCount size count = max 1 ⌈(count : ℚ) / size⌉₊ := by
  have hpositive : (0 : ℚ) < size := by exact_mod_cast hsize
  have hceil : (count + size - 1) / size = ⌈(count : ℚ) / size⌉₊ := by
    refine eq_of_forall_ge_iff fun pages => ?_
    rw [Nat.ceil_le, div_le_iff₀ hpositive, ← Nat.ceilDiv_eq_add_pred_div,
      ceilDiv_le_iff_le_mul hsize, Nat.mul_comm]
    exact_mod_cast Iff.rfl
  rw [pageCount, hceil, Nat.max_comm]

/-- The last page begins before the end of what there is, if there is anything. -/
theorem pred_pageCount_mul_lt {size : Nat} (hsize : 0 < size) (count : Nat) :
    (pageCount size count - 1) * size < max count 1 := by
  unfold pageCount
  rcases Nat.le_total ((count + size - 1) / size) 1 with hone | hmany
  · rw [Nat.max_eq_right hone]
    omega
  · rw [Nat.max_eq_left hmany, Nat.sub_one_mul]
    have hmul := Nat.div_mul_le_self (count + size - 1) size
    omega

/-! ### Totals -/

private theorem toNat_foldl_add_size (records : List Record) :
    ∀ total : UInt64, total.toNat + (records.map (·.size.toNat)).sum < UInt64.size →
      (records.foldl (fun sum r => sum + r.size) total).toNat =
        total.toNat + (records.map (·.size.toNat)).sum := by
  induction records with
  | nil => exact fun total _ => rfl
  | cons r rest ih =>
      intro total hfits
      rw [List.map_cons, List.sum_cons, ← Nat.add_assoc] at hfits ⊢
      have hadd : (total + r.size).toNat = total.toNat + r.size.toNat := by
        rw [UInt64.toNat_add]
        exact Nat.mod_eq_of_lt (Nat.lt_of_le_of_lt (Nat.le_add_right _ _) hfits)
      rw [List.foldl_cons, ih _ (by rw [hadd]; exact hfits), hadd]

/-- Sizes that have a sum are summed up. -/
theorem toNat_totalSize {records : List Record}
    (hsizes : (records.map (·.size.toNat)).sum < UInt64.size) :
    (totalSize records).toNat = (records.map (·.size.toNat)).sum := by
  have htotal := toNat_foldl_add_size records 0 (by simpa using hsizes)
  simpa [totalSize] using htotal

/-! ### Requests -/

namespace PageRequest

/-- The number of records on a full page. -/
def fullPage (request : PageRequest) : Nat := max request.pageSize.toNat 1

/-- The records that are asked for, in their order. -/
def selection (request : PageRequest) (records : List Record) : List Record :=
  records.filter fun r => request.selector.all (·.selects r.id)

theorem fullPage_pos (request : PageRequest) : 0 < request.fullPage :=
  Nat.lt_of_lt_of_le Nat.zero_lt_one (Nat.le_max_right _ _)

theorem selectRecords_eq (request : PageRequest) (records : List Record) :
    selectRecords request.selector records = request.selection records := by
  unfold selectRecords selection
  cases request.selector with
  | none => simp
  | some s => rfl

end PageRequest

/-- The page is what a request asks for of some records. -/
structure Page.Answers (page : Page) (records : List Record) (request : PageRequest) : Prop where
  viewCount : page.viewCount = records.length
  selectionCount : page.selectionCount = (request.selection records).length
  /-- The size of the selection is the sum of its sizes, which did not overflow. -/
  selectionSize : page.selectionSize.toNat = ((request.selection records).map (·.size.toNat)).sum
  pageCount : page.pageCount = max 1 ⌈(page.selectionCount : ℚ) / request.fullPage⌉₊
  /-- There is a number for each page. -/
  numbered : page.pageCount < UInt64.size
  inRange : page.pageNumber < page.pageCount
  /-- A page that exists is the one that is shown. -/
  asked : request.pageNumber.toNat < page.pageCount → page.pageNumber = request.pageNumber.toNat
  /-- Beyond the last page the last one is shown. -/
  beyond : page.pageCount ≤ request.pageNumber.toNat → page.pageNumber = page.pageCount - 1
  /-- The place where the page begins is a machine number. -/
  start : page.pageNumber * request.fullPage < UInt64.size
  full : page.pageNumber + 1 < page.pageCount → page.records.length = request.fullPage
  atMost : page.records.length ≤ request.fullPage
  nonempty : page.records = [] → request.selection records = []

variable {records : List Record}

/-- **What a page is.** -/
theorem paginate_answers (hlength : records.length < UInt64.size)
    (hsizes : (records.map (·.size.toNat)).sum < UInt64.size) (request : PageRequest) :
    (paginate records request).Answers records request := by
  have hsublist : (request.selection records).Sublist records := List.filter_sublist
  have hcount : (request.selection records).length < UInt64.size :=
    Nat.lt_of_le_of_lt hsublist.length_le hlength
  have hselected := request.selectRecords_eq records
  have hpositive := request.fullPage_pos
  -- All that is needed of the number of pages.
  let pages := pageCount request.fullPage (request.selection records).length
  have hpages : 0 < pages := pageCount_pos _ _
  have hlast : (pages - 1) * request.fullPage < max (request.selection records).length 1 :=
    pred_pageCount_mul_lt hpositive _
  let number := min request.pageNumber.toNat (pages - 1)
  have hpage : paginate records request =
      { records := ((request.selection records).drop (number * request.fullPage)).take
          request.fullPage
        pageNumber := number
        pageCount := pages
        viewCount := records.length
        selectionCount := (request.selection records).length
        selectionSize := totalSize (request.selection records)
        selectionDuration := totalLength (request.selection records) } := by
    rw [paginate, hselected]
    rfl
  have hstart : number * request.fullPage ≤ (pages - 1) * request.fullPage :=
    Nat.mul_le_mul_right _ (Nat.min_le_right _ _)
  rw [hpage]
  constructor
  case viewCount => rfl
  case selectionCount => rfl
  case selectionSize =>
    refine toNat_totalSize (Nat.lt_of_le_of_lt ?_ hsizes)
    exact (hsublist.map _).sum_le_sum fun _ _ => Nat.zero_le _
  case pageCount => exact pageCount_eq_ceil hpositive _
  case numbered =>
    have hle := pageCount_le hpositive (request.selection records).length
    have hone : 1 < UInt64.size := by decide
    show pages < UInt64.size
    omega
  case inRange =>
    show number < pages
    omega
  case asked =>
    intro hasked
    show number = _
    have hasked : request.pageNumber.toNat < pages := hasked
    omega
  case beyond =>
    intro hbeyond
    show number = pages - 1
    have hbeyond : pages ≤ request.pageNumber.toNat := hbeyond
    omega
  case start =>
    show number * request.fullPage < _
    omega
  case full =>
    intro hbefore
    have hnext : (number + 1) * request.fullPage ≤ (pages - 1) * request.fullPage := by
      refine Nat.mul_le_mul_right _ ?_
      have hbefore : number + 1 < pages := hbefore
      omega
    rw [Nat.add_one_mul] at hnext
    rw [List.length_take, List.length_drop]
    omega
  case atMost =>
    rw [List.length_take]
    exact Nat.min_le_left _ _
  case nonempty =>
    intro hempty
    have hnone := congrArg List.length hempty
    rw [List.length_take, List.length_drop, List.length_nil] at hnone
    refine List.length_eq_zero_iff.mp ?_
    omega

/-! ### All pages -/

/-- The pages of one size, from the first one on. -/
def PageRequest.pages (request : PageRequest) (records : List Record) : List Page :=
  (List.range (paginate records request).pageCount).map fun k =>
    paginate records { request with pageNumber := UInt64.ofNat k }

/-- The same request with another selector. -/
def PageRequest.choosing (request : PageRequest) (selector : Option Selector) : PageRequest :=
  { request with selector }

/-- Records that are included, and the same ones excluded, are all records. -/
theorem perm_include_exclude (ids : IdSet) (request : PageRequest) (records : List Record) :
    ((request.choosing (some (.include ids))).selection records ++
      (request.choosing (some (.exclude ids))).selection records).Perm
        ((request.choosing none).selection records) := by
  have hall : (request.choosing none).selection records = records :=
    List.filter_eq_self.mpr fun _ _ => rfl
  rw [hall]
  exact List.filter_append_perm (fun r => ids.contains r.id) records

/-- **The pages of a view make up its selection.**  Of any list of records, and for any request,
the page is what is asked for: the numbers on it are right, its number is in range, and it is
full unless it is the last one.  The pages of one size, one after the other, are the selected
records in their order.  And what is included and what is excluded by one set of identifiers
add up, in number and in size, to the view without a selector.  The length of a list in memory
is a machine number, and the sizes are to have a sum that is one. -/
theorem pages_make_up_selection (records : List Record) (hlength : records.length < UInt64.size)
    (hsizes : (records.map (·.size.toNat)).sum < UInt64.size) (request : PageRequest) :
    (paginate records request).Answers records request ∧
      (∀ (k : Nat) (page : Page), (request.pages records)[k]? = some page →
        page.pageNumber = k ∧ page.pageCount = (request.pages records).length ∧
          page.Answers records { request with pageNumber := UInt64.ofNat k }) ∧
      (request.pages records).flatMap (·.records) = request.selection records ∧
      ∀ ids : IdSet,
        let included := paginate records (request.choosing (some (.include ids)))
        let excluded := paginate records (request.choosing (some (.exclude ids)))
        let all := paginate records (request.choosing none)
        included.selectionCount + excluded.selectionCount = all.selectionCount ∧
          included.selectionSize.toNat + excluded.selectionSize.toNat =
            all.selectionSize.toNat := by
  have hanswers := paginate_answers hlength hsizes
  refine ⟨hanswers request, fun k page hpage => ?_, ?_, fun ids => ?_⟩
  · rw [PageRequest.pages, List.getElem?_map] at hpage
    obtain ⟨number, hnumber, rfl⟩ := Option.map_eq_some_iff.mp hpage
    obtain ⟨hrange, rfl⟩ := List.getElem?_eq_some_iff.mp hnumber
    rw [List.length_range] at hrange
    rw [List.getElem_range, PageRequest.pages, List.length_map, List.length_range]
    have hpage := hanswers { request with pageNumber := UInt64.ofNat k }
    have hk : (UInt64.ofNat k).toNat = k :=
      UInt64.toNat_ofNat_of_lt' (Nat.lt_trans hrange (hanswers request).numbered)
    refine ⟨?_, rfl, hpage⟩
    exact (hpage.asked (by rw [hk]; exact hrange)).trans hk
  · rw [PageRequest.pages, List.flatMap_map, ← request.selectRecords_eq]
    refine flatMap_paginate records request.selector request.pageSize ?_
    have hone : 1 < UInt64.size := by decide
    omega
  · intro included excluded all
    have hincluded := hanswers (request.choosing (some (.include ids)))
    have hexcluded := hanswers (request.choosing (some (.exclude ids)))
    have hall := hanswers (request.choosing none)
    have hperm := perm_include_exclude ids request records
    refine ⟨?_, ?_⟩
    · rw [hincluded.selectionCount, hexcluded.selectionCount, hall.selectionCount,
        ← List.length_append, hperm.length_eq]
    · rw [hincluded.selectionSize, hexcluded.selectionSize, hall.selectionSize,
        ← List.sum_append, ← List.map_append, (hperm.map _).sum_eq]

/-- Three of four records are chosen, whose sizes come close to what a sum can be.  The page that
is asked for is beyond the last one, which has one record. -/
theorem last_page_of_three_records :
    let big : Record := { id := 1, size := 18446744073709551600 }
    let records : List Record := [{ id := 4, size := 3 }, big, { id := 3 }, { id := 2, size := 8 }]
    let request : PageRequest := ⟨2, 9, some (.exclude (.ofList [4] compare))⟩
    records.length < UInt64.size ∧ (records.map (·.size.toNat)).sum < UInt64.size ∧
      (paginate records request).Answers records request ∧
      (paginate records request).pageNumber = 1 ∧ (paginate records request).records.length = 1 ∧
      (request.pages records).flatMap (·.records) = [big, { id := 3 }, { id := 2, size := 8 }] := by
  intro big records request
  have hlength : records.length < UInt64.size := by decide
  have hsizes : (records.map (·.size.toNat)).sum < UInt64.size := by decide
  obtain ⟨hanswers, _, hall, _⟩ := pages_make_up_selection records hlength hsizes request
  refine ⟨hlength, hsizes, hanswers, by decide +kernel, by decide +kernel, hall.trans ?_⟩
  decide +kernel

end MediaLibrary
