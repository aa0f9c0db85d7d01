/-
Values as bytes.

Each kind of value has one written form, from which it can be read although more bytes
follow: numbers of a fixed width have their least byte first, a length stands in front
of what it counts, and a choice is written as the number of the alternative.  Whole
numbers take as few bytes as one of four widths allows.  The first byte is the number
itself up to 250; above, it says how many bytes follow.  Signed numbers are folded onto
the unsigned ones so that those near zero are short.

A reader takes a value from the front and leaves the rest.
-/

namespace MediaLibrary.Bytes

/-- Why bytes are refused. -/
inductive Fault where
  /-- the bytes do not begin with a written form -/
  | malformed
  /-- a length is given that exceeds what can be addressed -/
  | unaddressable
  deriving DecidableEq

/-- A reader takes a value from the front of some bytes and leaves the rest. -/
abbrev Reader (α : Type) := StateT (List UInt8) (Except Fault) α

/-! ### Fixed widths -/

/-- The lowest `width` bytes of a number, least first. -/
def littleEndian : Nat → Nat → List UInt8
  | 0, _ => []
  | width + 1, n => UInt8.ofNat (n % 256) :: littleEndian width (n / 256)

/-- The number that bytes write, least first. -/
def ofLittleEndian : List UInt8 → Nat
  | [] => 0
  | b :: rest => b.toNat + 256 * ofLittleEndian rest

/-- The next bytes, as many as are wanted. -/
def take (count : Nat) : Reader (List UInt8) := fun bytes =>
  if count ≤ bytes.length then .ok (bytes.take count, bytes.drop count)
  else .error .malformed

/-- The next byte. -/
def byte : Reader UInt8
  | [] => .error .malformed
  | b :: rest => .ok (b, rest)

/-- A number of a fixed width. -/
def fixed (width : Nat) : Reader Nat :=
  return ofLittleEndian (← take width)

/-! ### Whole numbers -/

/-- The written form of a number below 2^64. -/
def ofNat (n : Nat) : List UInt8 :=
  if n ≤ 250 then [UInt8.ofNat n]
  else if n < UInt16.size then 251 :: littleEndian 2 n
  else if n < UInt32.size then 252 :: littleEndian 4 n
  else 253 :: littleEndian 8 n

/-- A number below 2^32. -/
def natural32 : Reader Nat := do
  let first ← byte
  if first ≤ 250 then return first.toNat
  else if first = 251 then fixed 2
  else if first = 252 then fixed 4
  else throw .malformed

/-- A number below 2^64. -/
def natural64 : Reader Nat := do
  let first ← byte
  if first ≤ 250 then return first.toNat
  else if first = 251 then fixed 2
  else if first = 252 then fixed 4
  else if first = 253 then fixed 8
  else throw .malformed

/-- A signed number folded onto the unsigned ones: 0, -1, 1, -2, 2 and so on. -/
def zigzag (i : Int) : Nat :=
  if i < 0 then (-2 * i - 1).toNat else (2 * i).toNat

/-- The signed number that was folded. -/
def ofZigzag (n : Nat) : Int :=
  if n % 2 = 0 then (n / 2 : Nat) else -((n / 2 : Nat) : Int) - 1

/-- A signed 64-bit number. -/
def signed64 : Reader Int64 :=
  return Int64.ofInt (ofZigzag (← natural64))

/-! ### Texts and truth values -/

/-- The written form of a text: its length in bytes, and its bytes. -/
def ofText (s : String) : List UInt8 :=
  let bytes := s.toUTF8.data.toList
  ofNat bytes.length ++ bytes

/-- A length of parts of the given size. -/
def length (partSize : Nat) : Reader Nat := do
  let count ← natural64
  if Int64.maxValue.toInt < count * partSize then throw .unaddressable
  return count

/-- A text. -/
def text : Reader String := do
  let bytes ← take (← length 1)
  match String.fromUTF8? ⟨bytes.toArray⟩ with
  | some s => return s
  | none => throw .malformed

/-- The written form of a truth value. -/
def ofBool (b : Bool) : List UInt8 :=
  [if b then 1 else 0]

/-- A truth value. -/
def bool : Reader Bool := do
  match ← byte with
  | 0 => return false
  | 1 => return true
  | _ => throw .malformed

/-- The given number of values, one after another. -/
def times {α : Type} (read : Reader α) : Nat → Reader (List α)
  | 0 => return []
  | count + 1 => do
    let first ← read
    return first :: (← times read count)

/-- The value at the front of some bytes, whatever follows. -/
def first {α : Type} (read : Reader α) (bytes : List UInt8) : Except Fault α :=
  (read bytes).map Prod.fst

end MediaLibrary.Bytes
