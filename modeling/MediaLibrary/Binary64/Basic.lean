/-
Binary floating point numbers of 64 bits.

A number is kept as its bit pattern: one sign bit, eleven bits of exponent,
fifty-two of fraction.  Patterns are told apart even where arithmetic does not
tell them apart.  Every NaN is a value of its own, and so are the two zeros, which
is what a value needs that is looked up, sorted and compared for sameness.

A finite pattern stands for `± m · 2 ^ q`, and every operation here computes that
number exactly and rounds once, in `ofRatio`: to the nearest number that a pattern
has, to the even fraction when two are equally near, to infinity beyond the
largest.  Decimal reading, division and addition share that one rounding.
-/

import Std.Data.ExtTreeMap

namespace MediaLibrary

open Std

/-- A binary64 number, by its bit pattern. -/
structure Binary64 where
  bits : UInt64
  deriving DecidableEq

namespace Binary64

/-! ### Patterns -/

/-- The weight of the sign bit. -/
def signWeight : Nat := Nat.pow 2 63

/-- The weight of the lowest exponent bit. -/
def exponentWeight : Nat := Nat.pow 2 52

/-- The pattern with a given sign and the rest of its bits. -/
def ofSign (negative : Bool) (magnitude : Nat) : Binary64 :=
  ⟨UInt64.ofNat ((if negative then signWeight else 0) + magnitude)⟩

/-- The sign bit. -/
def isNegative (x : Binary64) : Bool :=
  signWeight ≤ x.bits.toNat

/-- All bits but the sign. -/
def magnitude (x : Binary64) : Nat :=
  x.bits.toNat % signWeight

/-- The bits of an infinite magnitude. -/
def infiniteMagnitude : Nat := 2047 * exponentWeight

/-- Not a number. -/
def isNaN (x : Binary64) : Bool :=
  infiniteMagnitude < x.magnitude

/-- One of the two infinities. -/
def isInfinite (x : Binary64) : Bool :=
  x.magnitude = infiniteMagnitude

/-- One of the two zeros. -/
def isZero (x : Binary64) : Bool :=
  x.magnitude = 0

/-- A number, neither infinite nor NaN. -/
def isFinite (x : Binary64) : Bool :=
  x.magnitude < infiniteMagnitude

/-- The zero without a sign. -/
def zero : Binary64 := ofSign false 0

/-- The zero with a sign, which is another float. -/
def negativeZero : Binary64 := ofSign true 0

/-- An infinity. -/
def infinity (negative : Bool) : Binary64 := ofSign negative infiniteMagnitude

/-- The NaN that reading and arithmetic produce: a quiet one without payload. -/
def nan (negative : Bool) : Binary64 := ofSign negative (infiniteMagnitude + exponentWeight / 2)

instance : Inhabited Binary64 := ⟨zero⟩

/-- The number with its sign bit flipped. -/
def neg (x : Binary64) : Binary64 :=
  ofSign (!x.isNegative) x.magnitude

/-! ### The number a finite pattern stands for -/

/-- The factor `m` of `m · 2 ^ q`: the fraction, with the implicit one in front
unless the exponent bits are all zero. -/
def mantissa (x : Binary64) : Nat :=
  if x.magnitude < exponentWeight then x.magnitude
  else exponentWeight + x.magnitude % exponentWeight

/-- The exponent `q` of `m · 2 ^ q`. -/
def exponent (x : Binary64) : Int :=
  if x.magnitude < exponentWeight then -1074
  else (x.magnitude / exponentWeight : Nat) - 1075

/-- The least exponent of a pattern; the numbers that have it are spaced evenly. -/
def leastExponent : Int := -1074

/-- The greatest exponent of a pattern. -/
def greatestExponent : Int := 971

/-- `num / den` in units of `2 ^ q`, as a fraction of naturals. -/
def inUnits (num den : Nat) (q : Int) : Nat × Nat :=
  (num * Nat.pow 2 (-q).toNat, den * Nat.pow 2 q.toNat)

/-- The quotient rounded to the nearest whole number, a half to the even one. -/
def roundDiv (num den : Nat) : Nat :=
  let whole := num / den
  let twice := 2 * (num % den)
  if twice < den then whole
  else if den < twice then whole + 1
  else if whole % 2 = 0 then whole else whole + 1

/-- The exponent at which `num / den` has fifty-three bits before the point, or
the least one if it is smaller than that. -/
def exponentOf (num den : Nat) : Int :=
  let guess : Int := (num.log2 : Int) - den.log2 - 53
  let low := max guess leastExponent
  let (n, d) := inUnits num den low
  if n / d < Nat.pow 2 53 then low else low + 1

/-- The number nearest to `num / den`, where `den` is not zero; of two equally near
the one with the even fraction.  A fraction that rounds up to the next power of two
carries into the exponent bits by itself, and from the largest of them to infinity. -/
def ofRatio (negative : Bool) (num den : Nat) : Binary64 :=
  if num = 0 then ofSign negative 0
  else
    let q := exponentOf num den
    if greatestExponent < q then infinity negative
    else
      let (n, d) := inUnits num den q
      ofSign negative ((q - leastExponent).toNat * exponentWeight + roundDiv n d)

/-- The nearest number to a natural number. -/
def ofNat (n : Nat) : Binary64 :=
  ofRatio false n 1

/-- The nearest number to an integer. -/
def ofInt (i : Int) : Binary64 :=
  ofRatio (i < 0) i.natAbs 1

/-! ### Arithmetic -/

/-- The mantissa with its sign, in units of `2 ^ q` for a `q` that is not above the
number's exponent. -/
def scaled (x : Binary64) (q : Int) : Int :=
  let m : Int := (x.mantissa * Nat.pow 2 (x.exponent - q).toNat : Nat)
  if x.isNegative then -m else m

/-- The sum, rounded once.  A sum of zero is positive unless both parts are
negative. -/
def add (x y : Binary64) : Binary64 :=
  if x.isNaN then x
  else if y.isNaN then y
  else if x.isInfinite then
    if y.isInfinite && x.isNegative != y.isNegative then nan false else x
  else if y.isInfinite then y
  else
    let q := min x.exponent y.exponent
    let sum := x.scaled q + y.scaled q
    if sum = 0 then ofSign (x.isNegative && y.isNegative) 0
    else ofRatio (sum < 0) (sum.natAbs * Nat.pow 2 q.toNat) (Nat.pow 2 (-q).toNat)

/-- The product, rounded once. -/
def mul (x y : Binary64) : Binary64 :=
  let negative := x.isNegative != y.isNegative
  if x.isNaN then x
  else if y.isNaN then y
  else if x.isInfinite || y.isInfinite then
    if x.isZero || y.isZero then nan false else infinity negative
  else
    let q := x.exponent + y.exponent
    ofRatio negative (x.mantissa * y.mantissa * Nat.pow 2 q.toNat) (Nat.pow 2 (-q).toNat)

/-- The quotient, rounded once. -/
def div (x y : Binary64) : Binary64 :=
  let negative := x.isNegative != y.isNegative
  if x.isNaN then x
  else if y.isNaN then y
  else if x.isInfinite then if y.isInfinite then nan false else infinity negative
  else if y.isInfinite then ofSign negative 0
  else if y.isZero then if x.isZero then nan false else infinity negative
  else
    let q := x.exponent - y.exponent
    ofRatio negative (x.mantissa * Nat.pow 2 q.toNat) (y.mantissa * Nat.pow 2 (-q).toNat)

/-! ### The order of all patterns -/

/-- The place of a pattern in the order of all of them: negative NaNs, then the
numbers from minus infinity up, `-0` just before `0`, then the positive NaNs. -/
def place (x : Binary64) : Nat :=
  if x.isNegative then 2 * signWeight - 1 - x.bits.toNat else signWeight + x.bits.toNat

instance : Ord Binary64 := ⟨compareOn place⟩

instance : TransOrd Binary64 := inferInstanceAs (TransCmp (compareOn place))

/-- Different patterns have different places. -/
theorem place_inj {x y : Binary64} (h : x.place = y.place) : x = y := by
  obtain ⟨a⟩ := x
  obtain ⟨b⟩ := y
  have ha := a.toNat_lt
  have hb := b.toNat_lt
  have hab : a.toNat = b.toNat := by
    by_cases hx : signWeight ≤ a.toNat <;> by_cases hy : signWeight ≤ b.toNat <;>
      simp [place, isNegative, hx, hy] at h <;> simp [signWeight] at h hx hy <;> omega
  exact congrArg Binary64.mk (UInt64.toNat_inj.mp hab)

instance : LawfulEqOrd Binary64 where
  eq_of_compare h := place_inj (LawfulEqOrd.eq_of_compare (α := Nat) h)

/-! ### Back to whole numbers -/

/-- The nearest natural number, a half going up; zero for what is negative or NaN,
and `2 ^ 64 - 1` for what is larger than that. -/
def toNatSaturating (x : Binary64) : Nat :=
  if x.isNaN || x.isNegative then 0
  else if x.isInfinite then UInt64.size - 1
  else
    let (n, d) := inUnits x.mantissa 1 (-x.exponent)
    min ((2 * n + d) / (2 * d)) (UInt64.size - 1)

example : ofRatio false 1 3 = ⟨0x3FD5555555555555⟩ := by decide +kernel
example : (div (ofNat 1) (ofNat 10)).add (div (ofNat 2) (ofNat 10)) = ⟨0x3FD3333333333334⟩ := by
  decide +kernel

end Binary64

end MediaLibrary
