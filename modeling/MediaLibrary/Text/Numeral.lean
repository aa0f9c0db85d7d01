/-
Whole numbers written in decimal.

Only the ASCII digits count as digits.  A sign is allowed in front, a minus only
where the number may be negative; nothing else may surround the digits, and a
number that does not fit its type is refused rather than wrapped.
-/

namespace MediaLibrary.Text

/-- The value of an ASCII digit. -/
def digit? (c : Char) : Option Nat :=
  if '0' ≤ c ∧ c ≤ '9' then some (c.toNat - '0'.toNat) else none

/-- An ASCII digit. -/
def isDigit (c : Char) : Bool :=
  (digit? c).isSome

/-- The number that a list of digits writes; a character that is no digit counts
as zero. -/
def digitsValue (cs : List Char) : Nat :=
  cs.foldl (fun n c => 10 * n + (digit? c).getD 0) 0

/-- The number that a non-empty list of digits writes. -/
def natural? (cs : List Char) : Option Nat :=
  if cs.isEmpty || !cs.all isDigit then none else some (digitsValue cs)

/-- A number without the plus sign that may stand in front of it. -/
def dropPlus : List Char → List Char
  | '+' :: rest => rest
  | cs => cs

/-- An unsigned number of 64 bits. -/
def unsigned64? (s : String) : Option UInt64 := do
  let n ← natural? (dropPlus s.toList)
  if n < UInt64.size then some (UInt64.ofNat n) else none

/-- An integer below `2 ^ 63` in size, or its least neighbour `-2 ^ 63`. -/
def int64OfInt? (i : Int) : Option Int64 :=
  if Int64.minValue.toInt ≤ i ∧ i ≤ Int64.maxValue.toInt then some (Int64.ofInt i) else none

/-- A signed number of 64 bits. -/
def signed64? (s : String) : Option Int64 :=
  match s.toList with
  | '-' :: rest => do int64OfInt? (-((← natural? rest) : Int))
  | cs => do int64OfInt? ((← natural? (dropPlus cs)) : Int)

/-- A number of at least `width` digits, zeros in front. -/
def padNat (width : Nat) (n : Nat) : String :=
  let digits := n.repr.toList
  String.ofList (List.replicate (width - digits.length) '0' ++ digits)

example : signed64? "-9223372036854775808" = some Int64.minValue := by decide +kernel
example : unsigned64? "+7" = some 7 ∧ unsigned64? "-0" = none ∧ signed64? "+-5" = none := by
  decide +kernel

end MediaLibrary.Text
