/-
Bytes that are read back.

A written form is read from the front of some bytes, whatever follows it.  `Reads` says that of a
reader, the bytes that it takes and what it makes of them, and is put together step by step as
the reader is.  No further proof asks how many bytes a number takes: two values that are written
in front of the same bytes are the same, for one reader reads them both.
-/
import Mathlib.Algebra.Group.Nat.Defs
import MediaLibrary.Bytes.Basic

namespace MediaLibrary.Bytes

variable {α β : Type} {read : Reader α} {bytes more : List UInt8} {a : α}

/-- The reader takes the bytes away from whatever follows, and makes `a` of them. -/
def Reads (read : Reader α) (bytes : List UInt8) (a : α) : Prop :=
  ∀ rest, read (bytes ++ rest) = .ok (a, rest)

/-! ### Steps -/

theorem reads_pure (a : α) : Reads (pure a) [] a := fun _ => rfl

theorem Reads.bind {next : α → Reader β} {b : β} (h : Reads read bytes a)
    (hnext : Reads (next a) more b) : Reads (read >>= next) (bytes ++ more) b := by
  intro rest
  rw [List.append_assoc]
  show (read (bytes ++ (more ++ rest))).bind (fun answer => next answer.1 answer.2) = _
  rw [h (more ++ rest)]
  exact hnext rest

/-- The last step makes something else of what was read. -/
theorem Reads.map {next : α → Reader β} {b : β} (h : Reads read bytes a)
    (hnext : Reads (next a) [] b) : Reads (read >>= next) bytes b := by
  have hboth := h.bind hnext
  rwa [List.append_nil] at hboth

/-- **Nothing that is written can be taken for something else**, whatever follows it. -/
theorem Reads.cancel {bytes' rest rest' : List UInt8} {a' : α} (h : Reads read bytes a)
    (h' : Reads read bytes' a') (heq : bytes ++ rest = bytes' ++ rest') :
    a = a' ∧ rest = rest' := by
  have hsame : read (bytes ++ rest) = read (bytes' ++ rest') := by rw [heq]
  rw [h rest, h' rest'] at hsame
  exact Prod.mk.inj (Except.ok.inj hsame)

/-! ### Fixed widths -/

theorem reads_byte (b : UInt8) : Reads byte [b] b := fun _ => rfl

theorem reads_take (bytes : List UInt8) : Reads (take bytes.length) bytes bytes := by
  intro rest
  unfold take
  rw [if_pos (by simp), List.take_left, List.drop_left]

theorem length_littleEndian (width : Nat) :
    ∀ n : Nat, (littleEndian width n).length = width := by
  induction width with
  | zero => intro n; rfl
  | succ width ih => intro n; rw [littleEndian, List.length_cons, ih]

/-- A number is read back if the width is enough for it. -/
theorem ofLittleEndian_littleEndian (width : Nat) :
    ∀ {n : Nat}, n < 256 ^ width → ofLittleEndian (littleEndian width n) = n := by
  induction width with
  | zero =>
      intro n hn
      have hn : n < 1 := hn
      rw [littleEndian, ofLittleEndian]
      omega
  | succ width ih =>
      intro n hn
      have hrest : n / 256 < 256 ^ width := by
        rw [Nat.div_lt_iff_lt_mul (by decide), ← Nat.pow_succ]
        exact hn
      have hbyte : (UInt8.ofNat (n % 256)).toNat = n % 256 :=
        UInt8.toNat_ofNat_of_lt' (Nat.mod_lt _ (by decide))
      rw [littleEndian, ofLittleEndian, ih hrest, hbyte]
      omega

theorem reads_fixed {width n : Nat} (h : n < 256 ^ width) :
    Reads (fixed width) (littleEndian width n) n := by
  have htake := reads_take (littleEndian width n)
  rw [length_littleEndian] at htake
  refine htake.map ?_
  rw [ofLittleEndian_littleEndian width h]
  exact reads_pure n

/-! ### Whole numbers -/

private theorem reads_byte_of_le {n : Nat} (h : n ≤ 250) :
    Reads byte (ofNat n) (UInt8.ofNat n) ∧ (UInt8.ofNat n).toNat = n ∧ UInt8.ofNat n ≤ 250 := by
  have hbyte : (UInt8.ofNat n).toNat = n := UInt8.toNat_ofNat_of_lt' (by
    show n < 256
    omega)
  refine ⟨?_, hbyte, ?_⟩
  · rw [ofNat, if_pos h]
    exact reads_byte _
  · rw [UInt8.le_iff_toNat_le, hbyte]
    exact h

/-- Each of the four widths is told by the first byte. -/
theorem reads_natural64 {n : Nat} (h : n < UInt64.size) : Reads natural64 (ofNat n) n := by
  by_cases hsmall : n ≤ 250
  · obtain ⟨hreads, hbyte, hle⟩ := reads_byte_of_le hsmall
    refine hreads.map ?_
    rw [if_pos hle, hbyte]
    exact reads_pure n
  rw [ofNat, if_neg hsmall]
  split
  · rename_i hsize
    exact (reads_byte 251).bind (reads_fixed hsize)
  · split
    · rename_i hsize
      exact (reads_byte 252).bind (reads_fixed hsize)
    · exact (reads_byte 253).bind (reads_fixed h)

/-- Three widths are enough below 2^32. -/
theorem reads_natural32 {n : Nat} (h : n < UInt32.size) : Reads natural32 (ofNat n) n := by
  by_cases hsmall : n ≤ 250
  · obtain ⟨hreads, hbyte, hle⟩ := reads_byte_of_le hsmall
    refine hreads.map ?_
    rw [if_pos hle, hbyte]
    exact reads_pure n
  rw [ofNat, if_neg hsmall]
  split
  · rename_i hsize
    exact (reads_byte 251).bind (reads_fixed hsize)
  · exact (reads_byte 252).bind (reads_fixed h)

/-! ### Signed numbers -/

theorem ofZigzag_zigzag (i : Int) : ofZigzag (zigzag i) = i := by
  unfold zigzag ofZigzag
  by_cases h : i < 0
  · rw [if_pos h]
    split <;> omega
  · rw [if_neg h]
    split <;> omega

/-- The signed numbers of 64 bits are folded onto the unsigned ones of 64 bits. -/
theorem zigzag_lt (i : Int64) : zigzag i.toInt < UInt64.size := by
  have hle := i.le_toInt
  have hlt := i.toInt_lt
  have hsize : UInt64.size = 2 ^ 64 := rfl
  unfold zigzag
  split <;> omega

theorem reads_signed64 (i : Int64) : Reads signed64 (ofNat (zigzag i.toInt)) i := by
  refine (reads_natural64 (zigzag_lt i)).map ?_
  rw [ofZigzag_zigzag, Int64.ofInt_toInt]
  exact reads_pure i

/-! ### Lengths, texts and truth values -/

/-- A length is read if its parts can be addressed together. -/
theorem reads_length {partSize count : Nat} (hpart : 0 < partSize)
    (h : count * partSize < 2 ^ 63) : Reads (length partSize) (ofNat count) count := by
  have hle : count ≤ count * partSize := Nat.le_mul_of_pos_right count hpart
  have hsize : UInt64.size = 2 ^ 64 := rfl
  refine (reads_natural64 (by omega)).map ?_
  have hfits : ¬Int64.maxValue.toInt < (count : Int) * partSize := by
    have hmax : Int64.maxValue.toInt = 2 ^ 63 - 1 := by decide
    have hcast : ((count * partSize : Nat) : Int) = (count : Int) * partSize := Int.natCast_mul ..
    omega
  rw [if_neg hfits]
  exact reads_pure count

/-- The text has a length that a text in memory can have. -/
def Addressable (s : String) : Prop := s.toUTF8.data.toList.length < 2 ^ 63

theorem fromUTF8?_toUTF8 (s : String) :
    String.fromUTF8? ⟨s.toUTF8.data.toList.toArray⟩ = some s := by
  unfold String.fromUTF8?
  rw [dif_pos (show ByteArray.IsValidUTF8 ⟨s.toUTF8.data.toList.toArray⟩ from s.isValidUTF8)]
  rfl

/-- **A text is read back**, whatever follows it. -/
theorem reads_text {s : String} (h : Addressable s) : Reads text (ofText s) s := by
  have hlength : Reads (length 1) (ofNat s.toUTF8.data.toList.length)
      s.toUTF8.data.toList.length :=
    reads_length Nat.one_pos (by rwa [Nat.mul_one])
  refine (hlength.bind ((reads_take _).map ?_) : Reads text _ s)
  rw [fromUTF8?_toUTF8]
  exact reads_pure s

theorem reads_bool (b : Bool) : Reads bool (ofBool b) b := by
  cases b <;> exact fun _ => rfl

/-! ### Lists -/

/-- Values that are written one after another are read one after another. -/
theorem reads_times {write : β → List UInt8} {value : β → α} {items : List β}
    (h : ∀ item ∈ items, Reads read (write item) (value item)) :
    Reads (times read items.length) (items.flatMap write) (items.map value) := by
  induction items with
  | nil => exact reads_pure []
  | cons item rest ih =>
      obtain ⟨hitem, hrest⟩ := List.forall_mem_cons.mp h
      exact hitem.bind ((ih hrest).map (reads_pure _))

end MediaLibrary.Bytes
