/-
Groupings and groups.

A grouping names a field or a property and says how its groups are arranged.  A
group is the set of records that have a value in common.  Records without a value
come together in a group of their own, which is placed after all others; and where
a path of values has already been chosen, the records that hold all of them form
one more group.
-/
import MediaLibrary.Record.Field

namespace MediaLibrary

open Std

/-- The number by which groups are arranged. -/
inductive GroupOrder where
  | byValue
  | byCount
  | byLength
  deriving DecidableEq

namespace GroupOrder

/-- The name of an arrangement. -/
def name : GroupOrder → String
  | byValue => "by-value"
  | byCount => "by-count"
  | byLength => "by-length"

instance : ToString GroupOrder := ⟨name⟩

/-- The arrangement with exactly a given name. -/
def ofName? : String → Option GroupOrder
  | "by-value" => some byValue
  | "by-count" => some byCount
  | "by-length" => some byLength
  | _ => none

/-- The arrangement with a given name, in its long or its short form. -/
def ofAnyName? : String → Option GroupOrder
  | "value" => some byValue
  | "count" => some byCount
  | "length" => some byLength
  | name => ofName? name

/-- The arrangement that a text names. -/
def ofText (text : String) : Except UnknownName GroupOrder :=
  UnknownName.orElse "group sort" text (ofAnyName? text)

end GroupOrder

/-- The grouping layer of a view: what is grouped by, and how the groups are
arranged. -/
structure Grouping where
  field : String
  isProperty : Bool
  order : GroupOrder := .byValue
  reverse : Bool := false
  allowSingletons : Bool := false
  deriving DecidableEq

/-- The value that the records of a group have in common. -/
inductive GroupValue where
  | field (value : FieldValue)
  | property (value : Value)
  deriving DecidableEq

namespace GroupValue

/-- The text by which the value is shown. -/
def display : GroupValue → String
  | field value => value.display
  | property value => value.text

/-- The order of group values: values of fields, then values of properties. -/
def order : GroupValue → GroupValue → Ordering
  | field a, field b => compare a b
  | property a, property b => compare a b
  | field _, property _ => .lt
  | property _, field _ => .gt

instance : Ord GroupValue := ⟨order⟩

theorem order_eq_swap : ∀ a b : GroupValue, order a b = (order b a).swap
  | field a, field b => OrientedOrd.eq_swap (a := a) (b := b)
  | property a, property b => OrientedOrd.eq_swap (a := a) (b := b)
  | field _, property _ => rfl
  | property _, field _ => rfl

theorem order_isLE_trans {a b c : GroupValue} (hab : (order a b).isLE) (hbc : (order b c).isLE) :
    (order a c).isLE := by
  cases a <;> cases b <;> cases c <;> simp only [order] at hab hbc ⊢ <;>
    first
      | exact TransCmp.isLE_trans hab hbc
      | rfl
      | exact absurd hab Bool.false_ne_true
      | exact absurd hbc Bool.false_ne_true

theorem eq_of_order : ∀ {a b : GroupValue}, order a b = .eq → a = b
  | field _, field _, h => congrArg field (LawfulEqOrd.eq_of_compare h)
  | property _, property _, h => congrArg property (LawfulEqOrd.eq_of_compare h)

instance : TransOrd GroupValue where
  eq_swap := order_eq_swap _ _
  isLE_trans := order_isLE_trans

instance : LawfulEqOrd GroupValue where
  eq_of_compare h := eq_of_order h

end GroupValue

/-- The order of the values of groups, where a missing value comes after all
others. -/
def bucketOrder : Option GroupValue → Option GroupValue → Ordering
  | some a, some b => compare a b
  | some _, none => .lt
  | none, some _ => .gt
  | none, none => .eq

theorem bucketOrder_eq_swap : ∀ a b : Option GroupValue,
    bucketOrder a b = (bucketOrder b a).swap
  | some a, some b => OrientedOrd.eq_swap (a := a) (b := b)
  | some _, none => rfl
  | none, some _ => rfl
  | none, none => rfl

theorem bucketOrder_isLE_trans {a b c : Option GroupValue} (hab : (bucketOrder a b).isLE)
    (hbc : (bucketOrder b c).isLE) : (bucketOrder a c).isLE := by
  cases a <;> cases b <;> cases c <;> simp only [bucketOrder] at hab hbc ⊢ <;>
    first
      | exact TransCmp.isLE_trans hab hbc
      | rfl
      | exact absurd hab Bool.false_ne_true
      | exact absurd hbc Bool.false_ne_true

instance : TransCmp bucketOrder where
  eq_swap := bucketOrder_eq_swap _ _
  isLE_trans := bucketOrder_isLE_trans

theorem eq_of_bucketOrder : ∀ {a b : Option GroupValue}, bucketOrder a b = .eq → a = b
  | some _, some _, h => congrArg some (LawfulEqOrd.eq_of_compare h)
  | none, none, _ => rfl

instance : LawfulEqCmp bucketOrder where
  eq_of_compare := eq_of_bucketOrder

/-- A group: the value its records share, if they have one, their identifiers, and
the sum of their lengths.  The group of the records that hold a whole path of
values is marked as classified. -/
structure Group where
  value : Option GroupValue
  classified : Bool
  ids : List RecordId
  length : Binary64
  deriving DecidableEq

/-- The number of records in a group. -/
def Group.count (g : Group) : Nat := g.ids.length

/-- What is told about a group. -/
structure GroupSummary where
  value : Option GroupValue
  count : Nat
  length : Binary64
  classified : Bool
  deriving DecidableEq

/-- The summary of a group. -/
def Group.summary (g : Group) : GroupSummary :=
  ⟨g.value, g.count, g.length, g.classified⟩

end MediaLibrary
