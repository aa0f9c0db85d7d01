/-
Tags.

A tag is a property together with one value.  The records that hold a tag are found
by its key, a byte string from which the property and the value can be read back.  The
keys of all tags of one property begin with the same bytes, and no other key does.
-/
import MediaLibrary.Bytes.Basic
import MediaLibrary.Property.Value

namespace MediaLibrary

open Std

/-- A property and one value. -/
structure Tag where
  property : String
  value : Value
  deriving DecidableEq

namespace Tag

/-- The order of tags: by property, then by value. -/
def order : Tag → Tag → Ordering :=
  compareLex (compareOn property) (compareOn value)

instance : Ord Tag := ⟨order⟩

instance : TransOrd Tag :=
  inferInstanceAs (TransCmp (compareLex (compareOn property) (compareOn value)))

theorem eq_of_order {a b : Tag} (h : order a b = .eq) : a = b := by
  have parts := Ordering.then_eq_eq.mp h
  have property : a.property = b.property := LawfulEqOrd.eq_of_compare parts.1
  have value : a.value = b.value := LawfulEqOrd.eq_of_compare parts.2
  cases a; cases b; simp_all

instance : LawfulEqOrd Tag where
  eq_of_compare h := eq_of_order h

end Tag

/-- The written form of a value: the number of its kind, and its content. -/
def Value.toBytes : Value → List UInt8
  | .bool b => Bytes.ofNat 0 ++ Bytes.ofBool b
  | .int i => Bytes.ofNat 1 ++ Bytes.ofNat (Bytes.zigzag i.toInt)
  | .float x => Bytes.ofNat 2 ++ Bytes.littleEndian 8 x.bits.toNat
  | .str s => Bytes.ofNat 3 ++ Bytes.ofText s

/-- A property value. -/
def Value.read : Bytes.Reader Value := do
  match ← Bytes.natural32 with
  | 0 => return .bool (← Bytes.bool)
  | 1 => return .int (← Bytes.signed64)
  | 2 => return .float ⟨UInt64.ofNat (← Bytes.fixed 8)⟩
  | 3 => return .str (← Bytes.text)
  | _ => throw .malformed

namespace Tag

/-- The bytes with which the keys of all tags of a property begin. -/
def keyStart (property : String) : List UInt8 :=
  Bytes.ofText property

/-- The key of a tag. -/
def key (t : Tag) : List UInt8 :=
  keyStart t.property ++ t.value.toBytes

/-- The tag at the front of some bytes. -/
def ofKey (bytes : List UInt8) : Except Bytes.Fault Tag :=
  Bytes.first (do return ⟨← Bytes.text, ← Value.read⟩) bytes

end Tag

end MediaLibrary
