/-
Keys of records, and the order in which they list records.

The key of a record has the highest byte of its identifier first.  Of two byte strings of one
length the first difference decides, and as numbers of base 256 it decides too: what follows a
byte can never make up for one in the byte.  So a tree that is ordered by the bytes of its keys
lists records by their identifiers, and the store may look them up by identifiers instead.
-/
import MediaLibrary.Proofs.Bytes.Reads
import MediaLibrary.Proofs.OrderedMap
import MediaLibrary.Store.Basic
import MediaLibrary.Store.RecordKey

namespace MediaLibrary

open Std

namespace Bytes

/-! ### Numbers of a fixed width -/

theorem ofLittleEndian_lt (bytes : List UInt8) : ofLittleEndian bytes < 256 ^ bytes.length := by
  induction bytes with
  | nil => exact Nat.one_pos
  | cons b rest ih =>
      have hb : b.toNat < 256 := b.toNat_lt
      rw [ofLittleEndian, List.length_cons, Nat.pow_succ]
      omega

/-- A number gives back the bytes that it was read from. -/
theorem littleEndian_ofLittleEndian (bytes : List UInt8) :
    littleEndian bytes.length (ofLittleEndian bytes) = bytes := by
  induction bytes with
  | nil => rfl
  | cons b rest ih =>
      have hb : b.toNat < 256 := b.toNat_lt
      have hlow : (b.toNat + 256 * ofLittleEndian rest) % 256 = b.toNat := by omega
      have hrest : (b.toNat + 256 * ofLittleEndian rest) / 256 = ofLittleEndian rest := by omega
      rw [ofLittleEndian, List.length_cons, littleEndian, hlow, hrest, ih, UInt8.ofNat_toNat]

theorem ofLittleEndian_append (low high : List UInt8) :
    ofLittleEndian (low ++ high) = ofLittleEndian low + 256 ^ low.length * ofLittleEndian high := by
  induction low with
  | nil => simp [ofLittleEndian]
  | cons b rest ih =>
      have hweight : 256 ^ (rest.length + 1) * ofLittleEndian high =
          256 * (256 ^ rest.length * ofLittleEndian high) := by
        rw [Nat.pow_succ, Nat.mul_comm _ 256, Nat.mul_assoc]
      rw [List.cons_append, ofLittleEndian, ofLittleEndian, ih, List.length_cons, hweight]
      omega

/-! ### The order of bytes -/

/-- A byte outweighs all that follows it. -/
private theorem outweighs {low low' weight b b' : Nat} (hlow : low < weight) (hb : b < b') :
    low + weight * b < low' + weight * b' :=
  calc low + weight * b < weight + weight * b := Nat.add_lt_add_right hlow _
    _ = weight * (b + 1) := by rw [Nat.mul_succ, Nat.add_comm]
    _ ≤ weight * b' := Nat.mul_le_mul_left weight hb
    _ ≤ low' + weight * b' := Nat.le_add_left _ _

/-- **Byte strings of one length are ordered as the numbers that they write**, highest byte
first. -/
theorem compare_eq_compare_ofLittleEndian {xs ys : List UInt8} (h : xs.length = ys.length) :
    compare xs ys = compare (ofLittleEndian xs.reverse) (ofLittleEndian ys.reverse) := by
  induction xs generalizing ys with
  | nil =>
      obtain rfl : ys = [] := List.length_eq_zero_iff.mp h.symm
      rfl
  | cons x xs ih =>
      obtain ⟨y, ys, rfl⟩ := List.exists_cons_of_length_eq_add_one h.symm
      have hlength : xs.length = ys.length := Nat.succ.inj h
      have hx := ofLittleEndian_lt xs.reverse
      have hy := ofLittleEndian_lt ys.reverse
      have hvalue : ∀ b : UInt8, ofLittleEndian [b] = b.toNat := fun b => by
        simp [ofLittleEndian]
      rw [List.length_reverse] at hx hy
      rw [List.compare_cons_cons, ih hlength, List.reverse_cons, List.reverse_cons,
        ofLittleEndian_append, ofLittleEndian_append, hvalue, hvalue, List.length_reverse,
        List.length_reverse, ← hlength]
      rw [← hlength] at hy
      generalize ofLittleEndian xs.reverse = low at *
      generalize ofLittleEndian ys.reverse = low' at *
      generalize 256 ^ xs.length = weight at *
      -- the first bytes decide unless they are the same, for each outweighs what follows
      cases hfirst : compare x y with
      | lt =>
          have hlt : x < y := compare_eq_lt.mp hfirst
          exact (Nat.compare_eq_lt.mpr (outweighs hx hlt)).symm
      | eq =>
          obtain rfl := LawfulEqOrd.eq_of_compare hfirst
          rw [Nat.compare_eq_ite_lt, Nat.compare_eq_ite_lt]
          simp only [Nat.add_lt_add_iff_right, Ordering.then]
      | gt =>
          have hgt : y < x := compare_eq_gt.mp hfirst
          exact (Nat.compare_eq_gt.mpr (outweighs hy hgt)).symm

/-- The order of byte strings is the lexicographic one. -/
theorem compare_eq_lt_iff {xs ys : List UInt8} : compare xs ys = .lt ↔ xs < ys := by
  induction xs generalizing ys with
  | nil => cases ys <;> simp
  | cons x xs ih =>
      cases ys with
      | nil => simp
      | cons y ys =>
          rw [List.compare_cons_cons, Ordering.then_eq_lt, ih, List.cons_lt_cons_iff,
            Std.compare_eq_lt, LawfulEqOrd.compare_eq_iff_eq]

end Bytes

namespace RecordId

/-! ### Keys of records -/

theorem length_key (id : RecordId) : (key id).length = 8 := by
  rw [key, List.length_reverse, Bytes.length_littleEndian]

/-- The number that a key writes is the identifier. -/
theorem ofLittleEndian_reverse_key (id : RecordId) :
    Bytes.ofLittleEndian (key id).reverse = id.toNat := by
  have hid : id.toNat < 256 ^ 8 := id.toNat_lt
  rw [key, List.reverse_reverse, Bytes.ofLittleEndian_littleEndian 8 hid]

/-- **Bytes are read as an identifier if and only if they are its key.** -/
theorem ofKey_eq_ok_iff {bytes : List UInt8} {id : RecordId} :
    ofKey bytes = .ok id ↔ bytes = key id := by
  constructor
  · intro h
    unfold ofKey at h
    split at h
    · rename_i hlength
      have hlt := Bytes.ofLittleEndian_lt bytes.reverse
      have hback := Bytes.littleEndian_ofLittleEndian bytes.reverse
      rw [List.length_reverse, hlength] at hlt hback
      have hid : id.toNat = Bytes.ofLittleEndian bytes.reverse := by
        rw [← Except.ok.inj h]
        exact UInt64.toNat_ofNat_of_lt' hlt
      rw [key, hid, hback, List.reverse_reverse]
    · cases h
  · rintro rfl
    rw [ofKey, if_pos (length_key id), ofLittleEndian_reverse_key, UInt64.ofNat_toNat]

/-- Eight bytes are read, and no others. -/
theorem exists_ofKey_iff {bytes : List UInt8} :
    (∃ id, ofKey bytes = .ok id) ↔ bytes.length = 8 := by
  constructor
  · rintro ⟨id, h⟩
    rw [ofKey_eq_ok_iff.mp h, length_key]
  · intro h
    exact ⟨_, if_pos h⟩

/-- **Keys are ordered as the identifiers are.** -/
theorem compare_key (a b : RecordId) : compare (key a) (key b) = compare a b := by
  rw [Bytes.compare_eq_compare_ofLittleEndian ((length_key a).trans (length_key b).symm),
    ofLittleEndian_reverse_key, ofLittleEndian_reverse_key]
  cases hab : compare a b with
  | lt =>
      have hlt : a < b := compare_eq_lt.mp hab
      exact Nat.compare_eq_lt.mpr hlt
  | eq => rw [LawfulEqOrd.eq_of_compare hab, ReflOrd.compare_self]
  | gt =>
      have hgt : b < a := compare_eq_gt.mp hab
      exact Nat.compare_eq_gt.mpr hgt

theorem key_lt_key_iff {a b : RecordId} : key a < key b ↔ a < b := by
  rw [← Bytes.compare_eq_lt_iff, compare_key, compare_eq_lt]

end RecordId

/-! ### Trees ordered by keys -/

/-- The key under which a record is kept. -/
def Record.key (r : Record) : List UInt8 := RecordId.key r.id

/-- **A tree that is ordered by keys lists records in the order of their identifiers.** -/
theorem ids_ascend_of_keyed {tree : ExtTreeMap (List UInt8) Record}
    (h : OrderedMap.Keyed Record.key tree) :
    ((OrderedMap.values tree).map Record.id).Pairwise (· < ·) := by
  have hordered := tree.ordered_keys
  rw [← OrderedMap.map_key_values h, List.pairwise_map] at hordered
  refine List.pairwise_map.mpr (hordered.imp fun hlt => ?_)
  exact compare_eq_lt.mp ((RecordId.compare_key _ _).symm.trans hlt)

namespace Store

/-- The records of a store in a tree that is ordered by the bytes of their keys. -/
def byKey (s : Store) : ExtTreeMap (List UInt8) Record :=
  .ofList (s.records.toList.map fun e => (RecordId.key e.1, e.2)) compare

/-- **The tree lists the records as the store does.** -/
theorem toList_byKey (s : Store) :
    s.byKey.toList = s.records.toList.map fun e => (RecordId.key e.1, e.2) := by
  refine OrderedMap.toList_ofList (List.pairwise_map.mpr ?_)
  exact s.records.ordered_keys_toList.imp fun hlt => (RecordId.compare_key _ _).trans hlt

theorem values_byKey (s : Store) : OrderedMap.values s.byKey = s.toList := by
  rw [OrderedMap.values, toList_byKey, List.map_map, toList]
  rfl

end Store

/-- **Keys stand for identifiers, and are in their order.**  Of two keys the lexicographically
smaller one is that of the smaller identifier.  An identifier is read back from its key; eight
bytes are read as an identifier, of which they are the key, and other bytes are refused with their
number.  So a tree that is ordered by the bytes of its keys lists records by ascending identifiers,
and the records of a store as the store lists them. -/
theorem keys_order_records (s : Store) :
    (∀ a b : RecordId, RecordId.key a < RecordId.key b ↔ a < b) ∧
    (∀ id, RecordId.ofKey (RecordId.key id) = .ok id) ∧
    (∀ bytes, (∃ id, RecordId.ofKey bytes = .ok id) ↔ bytes.length = 8) ∧
    (∀ bytes id, RecordId.ofKey bytes = .ok id → RecordId.key id = bytes) ∧
    (∀ bytes, bytes.length ≠ 8 → RecordId.ofKey bytes = .error (.badRecordKey bytes.length)) ∧
    (∀ tree : ExtTreeMap (List UInt8) Record, OrderedMap.Keyed Record.key tree →
      ((OrderedMap.values tree).map Record.id).Pairwise (· < ·)) ∧
    OrderedMap.values s.byKey = s.toList :=
  ⟨fun _ _ => RecordId.key_lt_key_iff, fun _ => RecordId.ofKey_eq_ok_iff.mpr rfl,
    fun _ => RecordId.exists_ofKey_iff, fun _ _ h => (RecordId.ofKey_eq_ok_iff.mp h).symm,
    fun _ h => if_neg h, fun _ => ids_ascend_of_keyed, s.values_byKey⟩

/-- The lower byte of the first identifier is the greater one, and the topmost bit of the last one
is set. -/
theorem keys_order_three_records :
    let record := fun id : RecordId => { id, path := "/a/one.mkv" : Record }
    let s := [9223372036854775808, 256, 255].foldl (fun s id => s.put (record id)) Store.empty
    RecordId.key 255 < RecordId.key 256 ∧ RecordId.ofKey [255] = .error (.badRecordKey 1) ∧
      (OrderedMap.values s.byKey).map Record.id = [255, 256, 9223372036854775808] := by
  intro record s
  obtain ⟨hlt, _, _, _, hrefused, _, hlisted⟩ := keys_order_records s
  exact ⟨(hlt 255 256).mpr (by decide), hrefused [255] (by decide), by
    rw [hlisted]
    decide +kernel⟩

end MediaLibrary
