/-
Property values and their kinds.

A record can carry values of four kinds: truth values, whole numbers, floating
point numbers and texts.  Values of different kinds are never equal, so `1`, `1.0`
and `"1"` are three values.  All values stand in one order, first by kind and then
within the kind, floats by the order of their bit patterns.  The order is total and
tells every two values apart, which is what makes a value fit to be the key of a
group or of an index entry.
-/
import MediaLibrary.Binary64.Layout
import MediaLibrary.Text.Lowercase
import MediaLibrary.Text.UnknownName

namespace MediaLibrary

open Std

/-- The kinds of property values. -/
inductive Kind where
  | bool
  | int
  | float
  | str
  deriving DecidableEq

/-- A property value. -/
inductive Value where
  | bool (b : Bool)
  | int (i : Int64)
  | float (x : Binary64)
  | str (s : String)
  deriving DecidableEq

namespace Kind

/-- The name by which a kind is written. -/
def name : Kind → String
  | bool => "bool"
  | int => "int"
  | float => "float"
  | str => "str"

instance : ToString Kind := ⟨name⟩

/-- The kind with exactly a given name; three kinds have a longer name too. -/
def ofLongName? : String → Option Kind
  | "bool" | "boolean" => some bool
  | "int" | "integer" => some int
  | "float" => some float
  | "str" | "string" => some str
  | _ => none

/-- The kind that a text names, in any mixture of cases. -/
def ofText (s : String) : Except UnknownName Kind :=
  let name := Text.lowercase s
  UnknownName.orElse "property kind" name (ofLongName? name)

/-- The default of a property whose definition names none. -/
def zero : Kind → Value
  | bool => .bool false
  | int => .int 0
  | float => .float Binary64.zero
  | str => .str ""

/-- The value of this kind that a text writes, blanks around it aside. -/
def parse? (kind : Kind) (text : String) : Option Value :=
  let text := Text.trim text
  match kind with
  | bool =>
    match Text.lowercase text with
    | "true" | "yes" | "1" => some (.bool true)
    | "false" | "no" | "0" => some (.bool false)
    | _ => none
  | int => (Text.signed64? text).map .int
  | float => (Binary64.ofText? text).map .float
  | str => some (.str text)

end Kind

namespace Value

/-- The kind of a value. -/
def kind : Value → Kind
  | bool _ => .bool
  | int _ => .int
  | float _ => .float
  | str _ => .str

/-- The text by which a value is shown. -/
def text : Value → String
  | bool b => toString b
  | int i => toString i.toInt
  | float x => x.plainText
  | str s => s

instance : ToString Value := ⟨text⟩

/-- The content of a text value. -/
def asText? : Value → Option String
  | str s => some s
  | _ => none

/-- The place of a value's kind in the order of values. -/
def rank : Value → Nat
  | bool _ => 0
  | int _ => 1
  | float _ => 2
  | str _ => 3

/-- The order of values: by kind, then within the kind. -/
def order : Value → Value → Ordering
  | bool a, bool b => compare a b
  | int a, int b => compare a b
  | float a, float b => compare a b
  | str a, str b => compare a b
  | a, b => compare a.rank b.rank

instance : Ord Value := ⟨order⟩

theorem order_eq_swap (a b : Value) : order a b = (order b a).swap := by
  cases a <;> cases b <;> simp only [order] <;> exact OrientedCmp.eq_swap

theorem order_isLE_trans {a b c : Value} (hab : (order a b).isLE) (hbc : (order b c).isLE) :
    (order a c).isLE := by
  cases a <;> cases b <;> simp only [order] at hab <;>
    first
      | exact absurd hab Bool.false_ne_true
      | cases c <;> simp only [order] at hbc ⊢ <;>
          first
            | exact TransCmp.isLE_trans hab hbc
            | exact absurd hbc Bool.false_ne_true
            | rfl

theorem eq_of_order {a b : Value} (h : order a b = .eq) : a = b := by
  cases a <;> cases b <;> simp only [order] at h <;>
    first
      | exact congrArg _ (LawfulEqOrd.eq_of_compare h)
      | exact absurd h (by simp [rank, compare, compareOfLessAndEq])

instance : TransOrd Value where
  eq_swap := order_eq_swap _ _
  isLE_trans := order_isLE_trans

instance : LawfulEqOrd Value where
  eq_of_compare h := eq_of_order h

end Value

end MediaLibrary
