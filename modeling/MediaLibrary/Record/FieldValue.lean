/-
Field values.

A field reduces a record to a value that can be compared: with itself in another
record when records are sorted, and with itself alone when they are grouped.  Like
property values, all field values stand in one total order that tells every two of
them apart.
-/
import MediaLibrary.Property.Value
import MediaLibrary.Record.FileSize
import MediaLibrary.Record.Calendar

namespace MediaLibrary

open Std

/-- The value of a field.  Sizes are in bytes, lengths in seconds, dates in seconds
since 1970. -/
inductive FieldValue where
  | bool (b : Bool)
  | int (i : Int64)
  | float (x : Binary64)
  | text (s : String)
  | size (bytes : UInt64)
  | length (seconds : Binary64)
  | date (seconds : Int64)
  | resolution (width height : UInt32)
  deriving DecidableEq

/-- A duration as hours, minutes and seconds, rounded to the second. -/
def durationText (seconds : Binary64) : String :=
  let total := seconds.toNatSaturating
  s!"{total / 3600}:{Text.padNat 2 (total / 60 % 60)}:{Text.padNat 2 (total % 60)}"

namespace FieldValue

/-- The text by which a field value is shown. -/
def display : FieldValue → String
  | bool b => toString b
  | int i => toString i.toInt
  | float x => x.fixedText 3
  | text s => s
  | size bytes => FileSize.text bytes
  | length seconds => durationText seconds
  | date seconds => Calendar.text seconds.toInt
  | resolution width height => s!"{width.toNat}x{height.toNat}"

/-- The place of a kind of field value in the order of field values. -/
def rank : FieldValue → Nat
  | bool _ => 0
  | int _ => 1
  | float _ => 2
  | text _ => 3
  | size _ => 4
  | length _ => 5
  | date _ => 6
  | resolution _ _ => 7

/-- The order of resolutions: by width, then by height. -/
def resolutionOrder : UInt32 × UInt32 → UInt32 × UInt32 → Ordering :=
  compareLex (compareOn Prod.fst) (compareOn Prod.snd)

instance : TransCmp resolutionOrder :=
  inferInstanceAs (TransCmp (compareLex (compareOn Prod.fst) (compareOn Prod.snd)))

theorem eq_of_resolutionOrder {a b : UInt32 × UInt32} (h : resolutionOrder a b = .eq) : a = b := by
  have h' : compare a.1 b.1 = .eq ∧ compare a.2 b.2 = .eq := Ordering.then_eq_eq.mp h
  exact Prod.ext (LawfulEqOrd.eq_of_compare h'.1) (LawfulEqOrd.eq_of_compare h'.2)

/-- The order of field values: by kind, then within the kind. -/
def order : FieldValue → FieldValue → Ordering
  | bool a, bool b => compare a b
  | int a, int b => compare a b
  | float a, float b => compare a b
  | text a, text b => compare a b
  | size a, size b => compare a b
  | length a, length b => compare a b
  | date a, date b => compare a b
  | resolution w h, resolution w' h' => resolutionOrder (w, h) (w', h')
  | a, b => compare a.rank b.rank

instance : Ord FieldValue := ⟨order⟩

theorem order_eq_swap (a b : FieldValue) : order a b = (order b a).swap := by
  cases a <;> cases b <;> simp only [order] <;> exact OrientedCmp.eq_swap

theorem order_isLE_trans {a b c : FieldValue} (hab : (order a b).isLE) (hbc : (order b c).isLE) :
    (order a c).isLE := by
  cases a <;> cases b <;> simp only [order] at hab <;>
    first
      | exact absurd hab Bool.false_ne_true
      | cases c <;> simp only [order] at hbc ⊢ <;>
          first
            | exact TransCmp.isLE_trans hab hbc
            | exact absurd hbc Bool.false_ne_true
            | rfl

theorem eq_of_order {a b : FieldValue} (h : order a b = .eq) : a = b := by
  cases a <;> cases b <;> simp only [order] at h <;>
    first
      | exact congrArg _ (LawfulEqOrd.eq_of_compare h)
      | exact absurd h (by simp [rank, compare, compareOfLessAndEq])
      | exact congrArg (fun p => resolution p.1 p.2) (eq_of_resolutionOrder h)

instance : TransOrd FieldValue where
  eq_swap := order_eq_swap _ _
  isLE_trans := order_isLE_trans

instance : LawfulEqOrd FieldValue where
  eq_of_compare h := eq_of_order h

end FieldValue

end MediaLibrary
