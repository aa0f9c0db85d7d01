/-
Numbers written in JSON.

The parts of a number are read first, and what it stands for is made of them.  A whole
number stays one while it fits in 64 bits.  For any other number the leading digits are
collected into a 64-bit significand, the rest of them only counts towards the exponent,
and the significand is multiplied or divided by a power of ten, each a rounded float.  A
float of many digits can therefore come out one step away from the nearest one.  A number
beyond the largest float stands for nothing.
-/
import MediaLibrary.Binary64.Reading
import MediaLibrary.Json.Basic

namespace MediaLibrary

open Text

/-- The parts of a number: digits, perhaps places behind a point, perhaps an exponent. -/
structure NumberParts where
  negative : Bool
  whole : List Char
  places : Option (List Char)
  exponent : Option (Bool × List Char)
  deriving DecidableEq

namespace NumberParts

/-! ### Reading the parts -/

/-- Digits, of which there has to be one. -/
def digits? (cs : List Char) : Option (List Char × List Char) :=
  match cs.takeWhile isDigit with
  | [] => none
  | digits => some (digits, cs.dropWhile isDigit)

/-- Digits that begin with a zero only if there is no other one. -/
def whole? (cs : List Char) : Option (List Char × List Char) :=
  (digits? cs).filter fun (digits, _) => digits.head? ≠ some '0' || digits.length = 1

/-- The places behind a point, if there is a point. -/
def places? : List Char → Option (Option (List Char) × List Char)
  | '.' :: rest => (digits? rest).map fun (digits, rest) => (some digits, rest)
  | cs => some (none, cs)

/-- The exponent behind its mark, and whether it is negative, if there is a mark. -/
def exponent? : List Char → Option (Option (Bool × List Char) × List Char)
  | 'e' :: '-' :: rest | 'E' :: '-' :: rest =>
    (digits? rest).map fun (digits, rest) => (some (true, digits), rest)
  | 'e' :: rest | 'E' :: rest =>
    (digits? (dropPlus rest)).map fun (digits, rest) => (some (false, digits), rest)
  | cs => some (none, cs)

/-- The parts of a number without its sign. -/
def unsigned? (negative : Bool) (cs : List Char) : Option (NumberParts × List Char) := do
  let (whole, rest) ← whole? cs
  let (places, rest) ← places? rest
  let (exponent, rest) ← exponent? rest
  return (⟨negative, whole, places, exponent⟩, rest)

/-- The parts of the number in front of a text. -/
def read? : List Char → Option (NumberParts × List Char)
  | '-' :: rest => unsigned? true rest
  | cs => unsigned? false cs

/-! ### What a number stands for -/

/-- Whether a digit still fits behind a 64-bit significand. -/
def fits (significand digit : Nat) : Bool :=
  10 * significand + digit < UInt64.size

/-- The digits collected into a significand that starts from `significand`, as long
as they fit, and the number of digits that did. -/
def collect (significand : Nat) : List Char → Nat × Nat
  | [] => (significand, 0)
  | c :: rest =>
    let digit := (digit? c).getD 0
    if fits significand digit then
      let (total, count) := collect (10 * significand + digit) rest
      (total, count + 1)
    else (significand, 0)

/-- A power of ten with an exponent up to 308, as a float. -/
def powerOfTen (exponent : Nat) : Binary64 :=
  Binary64.ofDecimal false ⟨1, exponent⟩

/-- `x · 10 ^ exponent`, by steps of at most `10 ^ 308` when dividing. -/
def scale : (steps : Nat) → (x : Binary64) → (exponent : Int) → Option Binary64
  | 0, x, _ => some x
  | steps + 1, x, exponent =>
    if exponent.natAbs ≤ 308 then
      if 0 ≤ exponent then
        let y := x.mul (powerOfTen exponent.natAbs)
        if y.isInfinite then none else some y
      else some (x.div (powerOfTen exponent.natAbs))
    else if x.isZero then some x
    else if 0 ≤ exponent then none
    else scale steps (x.div (powerOfTen 308)) (exponent + 308)

/-- A float from its significand and exponent.  After four divisions by `10 ^ 308`
nothing is left of a significand of 64 bits. -/
def floatOfParts (negative : Bool) (significand : Nat) (exponent : Int) : Option Binary64 :=
  (scale 5 (Binary64.ofNat significand) exponent).map fun x => if negative then x.neg else x

/-- The exponent of a number is kept within the 32-bit integers. -/
def clampExponent (e : Int) : Int :=
  max Int32.minValue.toInt (min e Int32.maxValue.toInt)

/-- The exponent behind the mark of a number, added to the one that its digits bring; none
if it is too large to count, in which case the sign decides. -/
def total? (start : Int) (down : Bool) (digits : List Char) : Option Int :=
  let e := digitsValue digits
  if Int32.maxValue.toInt < e then none
  else some (clampExponent (if down then start - e else start + e))

/-- A whole number that fits in 64 bits, with its sign.  Minus zero and what is less
than the least integer become floats. -/
def wholeNumber (negative : Bool) (significand : Nat) : JsonNumber :=
  if !negative then .natural (UInt64.ofNat significand)
  else match int64OfInt? (-(significand : Int)) with
    | some i => if i = 0 then .float Binary64.negativeZero else .negative i
    | none => .float (Binary64.ofInt (-(significand : Int)))

/-- The float of a number that is not written as a whole one. -/
def float? (n : NumberParts) : Option Binary64 :=
  let (significand, count) := collect 0 n.whole
  let dropped := n.whole.length - count
  let (significand, count) := collect significand (n.places.getD [])
  let start : Int := dropped - count
  match n.exponent with
  | none => floatOfParts n.negative significand start
  | some (down, digits) =>
    match total? start down digits with
    | some e => floatOfParts n.negative significand e
    | none =>
      if significand ≠ 0 ∧ !down then none else some (Binary64.ofSign n.negative 0)

/-- The number of some parts. -/
def number? (n : NumberParts) : Option JsonNumber :=
  let (significand, count) := collect 0 n.whole
  if n.places = none ∧ n.exponent = none ∧ count = n.whole.length then
    some (wholeNumber n.negative significand)
  else n.float?.map .float

end NumberParts

end MediaLibrary
