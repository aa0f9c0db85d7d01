/-
Orders that tell values apart.

Values are the keys of maps and sets, of groups and of index entries, and records are sorted by
them.  All of this takes for granted that the order is one: that any two values compare, that no
circle of values comes out, and that two of them compare as equal only if they are the same value,
bit for bit.  `LawfulOrder` says so of each of the four orders.

A value is a key of hash tables too, and there it is told apart by what it hands over to be hashed.
Equal values hand over the same bytes, as they must, and different values never do.
-/
import MediaLibrary.Grouping.Basic
import MediaLibrary.Proofs.Bytes.Reads
import MediaLibrary.Property.Hash

namespace MediaLibrary

open Std

/-- The comparison orders all values, and tells every two of them apart. -/
structure LawfulOrder {α : Type} (cmp : α → α → Ordering) : Prop where
  total : ∀ a b, (cmp a b).isLE ∨ (cmp b a).isLE
  antisymm : ∀ a b, (cmp a b).isLE → (cmp b a).isLE → a = b
  trans : ∀ a b c, (cmp a b).isLE → (cmp b c).isLE → (cmp a c).isLE
  /-- The other way round, the answer is the opposite one. -/
  swap : ∀ a b, cmp b a = (cmp a b).swap
  eq_iff : ∀ a b, cmp a b = .eq ↔ a = b

/-- A comparison that is transitive, oriented and never ties is an order. -/
theorem lawfulOrder {α : Type} (cmp : α → α → Ordering) [TransCmp cmp] [LawfulEqCmp cmp] :
    LawfulOrder cmp where
  total a b := by
    have hswap : cmp b a = (cmp a b).swap := OrientedCmp.eq_swap
    rw [hswap]
    cases cmp a b <;> simp
  antisymm _ _ hab hba := LawfulEqCmp.eq_of_compare (OrientedCmp.isLE_antisymm hab hba)
  trans _ _ _ := TransCmp.isLE_trans
  swap _ _ := OrientedCmp.eq_swap
  eq_iff _ _ := LawfulEqCmp.compare_eq_iff_eq

namespace Value

/-! ### What is hashed -/

theorem rank_lt (v : Value) : v.rank < 4 := by
  cases v <;> simp [rank]

/-- Words of 64 bits are told apart by their bytes. -/
private theorem eq_of_littleEndian {a b : UInt64}
    (h : Bytes.littleEndian 8 a.toNat = Bytes.littleEndian 8 b.toNat) : a = b := by
  have hback : ∀ w : UInt64, Bytes.ofLittleEndian (Bytes.littleEndian 8 w.toNat) = w.toNat :=
    fun w => Bytes.ofLittleEndian_littleEndian 8 w.toNat_lt
  rw [← UInt64.toNat_inj, ← hback a, h, hback b]

/-- **Values that hand over the same bytes are the same value.** -/
theorem eq_of_hashed {a b : Value} (h : a.hashed = b.hashed) : a = b := by
  obtain ⟨hplace, hcontent⟩ := List.cons.inj h
  have hrank : a.rank = b.rank := by
    have hnat := congrArg UInt8.toNat hplace
    have ha := a.rank_lt
    have hb := b.rank_lt
    have hsize : UInt8.size = 256 := rfl
    rwa [UInt8.toNat_ofNat_of_lt' (by omega), UInt8.toNat_ofNat_of_lt' (by omega)] at hnat
  -- only values of one kind are left
  cases a <;> cases b <;> cases hrank
  case bool.bool.refl a b =>
      have hbytes : ∀ a b : Bool, Bytes.ofBool a = Bytes.ofBool b → a = b := by decide
      exact congrArg bool (hbytes a b hcontent)
  case int.int.refl a b =>
      exact congrArg int (congrArg Int64.ofUInt64 (eq_of_littleEndian hcontent))
  case float.float.refl a b =>
      exact congrArg float (congrArg Binary64.mk (eq_of_littleEndian hcontent))
  case str.str.refl a b =>
      have hbytes := List.append_cancel_right hcontent
      exact congrArg str (String.toByteArray_inj.mp (ByteArray.ext (Array.toList_inj.mp hbytes)))

end Value

/-- **The orders of values are lawful.**  Property values, field values, the values of groups, and
these with the missing one behind all others: in each of the four orders any two values compare,
comparisons chain, and two values compare as equal if and only if they are the same value of the
same kind, floats bit for bit.  Property values compare as equal if and only if they hand over
the same bytes to be hashed. -/
theorem orders_tell_values_apart :
    LawfulOrder Value.order ∧ LawfulOrder FieldValue.order ∧ LawfulOrder GroupValue.order ∧
    LawfulOrder bucketOrder ∧
    (∀ x y : Binary64, compare x y = .eq ↔ x.bits = y.bits) ∧
    ∀ a b : Value, Value.order a b = .eq ↔ a.hashed = b.hashed := by
  have hvalue : LawfulOrder Value.order := lawfulOrder (compare : Value → Value → Ordering)
  refine ⟨hvalue, lawfulOrder (compare : FieldValue → FieldValue → Ordering),
    lawfulOrder (compare : GroupValue → GroupValue → Ordering), lawfulOrder bucketOrder,
    fun x y => ?_, fun a b => ?_⟩
  · rw [(lawfulOrder (compare : Binary64 → Binary64 → Ordering)).eq_iff]
    exact ⟨congrArg Binary64.bits, congrArg Binary64.mk⟩
  · rw [hvalue.eq_iff]
    exact ⟨congrArg Value.hashed, Value.eq_of_hashed⟩

/-- Zeros of either sign are different values. -/
example : Value.order (.float .negativeZero) (.float .zero) = .lt := by decide +kernel

end MediaLibrary
