/-
Pages of a view.

A selector narrows a view to some of its records, or to all but some.  What is
selected is cut into pages of equal size.  There is always at least one page, and a
page number beyond the last page stands for the last.
-/
import MediaLibrary.Query.Search
import MediaLibrary.View.Sort

namespace MediaLibrary

/-- A choice among the records of a view. -/
inductive Selector where
  | include (ids : IdSet)
  | exclude (ids : IdSet)
  deriving DecidableEq

/-- Whether a record is selected. -/
def Selector.selects : Selector → RecordId → Bool
  | .include ids, id => ids.contains id
  | .exclude ids, id => !ids.contains id

/-- The records that a selector selects; without one all of them. -/
def selectRecords (selector : Option Selector) (records : List Record) : List Record :=
  match selector with
  | none => records
  | some s => records.filter fun r => s.selects r.id

/-- What part of a view is wanted.  A page size of zero counts as one. -/
structure PageRequest where
  pageSize : UInt64 := 20
  pageNumber : UInt64 := 0
  selector : Option Selector := none
  deriving DecidableEq

/-- One page of a view, and numbers on the view and on the selection. -/
structure Page where
  records : List Record
  pageNumber : Nat
  pageCount : Nat
  viewCount : Nat
  selectionCount : Nat
  selectionSize : UInt64
  selectionDuration : Binary64

/-- The sum of some lengths, in their order.  The sum of none is minus zero, which
leaves every other number as it is. -/
def totalLength (records : List Record) : Binary64 :=
  records.foldl (fun sum r => sum.add r.length) Binary64.negativeZero

/-- The sum of some sizes. -/
def totalSize (records : List Record) : UInt64 :=
  records.foldl (fun sum r => sum + r.size) 0

/-- The number of pages of a given size that hold a number of records. -/
def pageCount (size count : Nat) : Nat :=
  max ((count + size - 1) / size) 1

/-- The wanted page of a sorted view. -/
def paginate (records : List Record) (request : PageRequest) : Page :=
  let selection := selectRecords request.selector records
  let size := max request.pageSize.toNat 1
  let pages := pageCount size selection.length
  let number := min request.pageNumber.toNat (pages - 1)
  { records := (selection.drop (number * size)).take size
    pageNumber := number
    pageCount := pages
    viewCount := records.length
    selectionCount := selection.length
    selectionSize := totalSize selection
    selectionDuration := totalLength selection }

/-- The values of a field in the selected records. -/
def column (records : List Record) (selector : Option Selector) (field : Field) :
    Except ViewError (List FieldValue) :=
  if field.spansColumns then .error (.spansColumns field)
  else .ok ((selectRecords selector records).map field.valueOf)

end MediaLibrary
