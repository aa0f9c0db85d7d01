/-
The order of the records in a view.

Records are sorted by a list of keys, each a field in one of two directions, and
where no key tells two records apart by their identifiers.
-/
import MediaLibrary.Record.Field

namespace MediaLibrary

open Std

/-- Why a view cannot be shown. -/
inductive ViewError where
  /-- the field does not fit into one column -/
  | spansColumns (field : Field)
  | unknownField (name : String)
  deriving DecidableEq

/-- Why a field is not shown, in words. -/
def ViewError.message : ViewError → String
  | spansColumns field => s!"Invalid argument: field '{field}' spans several columns"
  | unknownField name => s!"Unknown field '{name}'"

/-- A field to sort by, and in which direction. -/
structure SortKey where
  field : Field
  descending : Bool
  deriving DecidableEq

namespace SortKey

/-- The text of a sort key: the name of its field, after a minus sign if it is
descending. -/
def text (key : SortKey) : String :=
  (if key.descending then "-" else "") ++ key.field.name

instance : ToString SortKey := ⟨text⟩

/-- The direction in front of a field name, and the rest. -/
def splitDirection : List Char → Bool × List Char
  | '-' :: rest => (true, rest)
  | '+' :: rest => (false, rest)
  | name => (false, name)

/-- The sort key that a text writes. -/
def ofText (s : String) : Except ViewError SortKey :=
  let (descending, name) := splitDirection (Text.trim s).toList
  match Field.ofText? (String.ofList name) with
  | some field => .ok ⟨field, descending⟩
  | none => .error (.unknownField (String.ofList name))

/-- The order of two records by one key. -/
def compare (key : SortKey) (a b : Record) : Ordering :=
  let order := Ord.compare (key.field.valueOf a) (key.field.valueOf b)
  if key.descending then order.swap else order

end SortKey

/-- The order of two records by the first of the keys that tells them apart, and else
by their identifiers. -/
def compareBy : List SortKey → Record → Record → Ordering
  | [], a, b => compare a.id b.id
  | key :: rest, a, b => (key.compare a b).then (compareBy rest a b)

/-- The records in the order of the keys. -/
def sortRecords (keys : List SortKey) (records : List Record) : List Record :=
  records.mergeSort fun a b => (compareBy keys a b).isLE

end MediaLibrary
