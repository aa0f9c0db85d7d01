/-
The fewest decimal digits that read back.

The decimal numbers that are read as a given binary64 number fill an interval
around it, reaching half-way to its neighbours; the ends belong to it when its
mantissa is even, since a tie is read as the even one.  Of the decimal numbers in
that interval the one with the fewest digits is wanted, and of those the nearest.

For a given number of digits the candidates lie on a grid of a power of ten.  If
any point of the grid falls in the interval, then so does one of the two around
the number itself, so two points per grid are enough, and seventeen digits always
suffice.
-/
import MediaLibrary.Binary64.Reading

namespace MediaLibrary.Binary64

/-- The power of ten of the leading digit of `num / den`, neither of them zero. -/
def leadingExponent (num den : Nat) : Int :=
  if den ≤ num then (digitCount (num / den) : Int) - 1
  else -(digitCount ((den + num - 1) / num - 1) : Int)

/-- The candidates of one grid, as whole numbers of its step: those of the two
neighbours of `num / den` that are read as the number.  `unit` is the distance
between adjacent mantissas on the scale of `num`, and `narrow` says that the
interval below is half as wide as the one above, as it is under a power of two. -/
def readBack (num den unit : Nat) (even narrow : Bool) : List Nat :=
  let below := num / den
  let gapBelow := 4 * (num - below * den)
  let gapAbove := 4 * ((below + 1) * den - num)
  let reach := if narrow then unit else 2 * unit
  let lower := if gapBelow < reach ∨ (even ∧ gapBelow = reach) then [below] else []
  let upper := if gapAbove < 2 * unit ∨ (even ∧ gapAbove = 2 * unit) then [below + 1] else []
  match lower, upper with
  | [_], [_] =>
    if gapBelow < gapAbove ∨ (gapBelow = gapAbove ∧ below % 2 = 0) then lower else upper
  | _, _ => lower ++ upper

/-- The candidate with the fewest digits, trying `digits` of them and then `more`
times one more. -/
def shortestFrom (x : Binary64) (lead : Int) (digits : Nat) : (more : Nat) → Decimal
  | 0 => ⟨0, 0⟩
  | more + 1 =>
    let e : Int := lead - digits + 1
    let unit := Nat.pow 2 x.exponent.toNat * Nat.pow 10 (-e).toNat
    let den := Nat.pow 2 (-x.exponent).toNat * Nat.pow 10 e.toNat
    let narrow := x.mantissa = exponentWeight ∧ leastExponent < x.exponent
    match readBack (x.mantissa * unit) den unit (x.mantissa % 2 = 0) narrow with
    | d :: _ => ⟨d, e⟩
    | [] => shortestFrom x lead (digits + 1) more

/-- A decimal number without the zeros its digits end in. -/
def Decimal.stripped (x : Decimal) : Decimal :=
  let zeros := (x.digits.repr.toList.reverse.takeWhile (· = '0')).length
  if x.digits = 0 then ⟨0, 0⟩ else ⟨x.digits / Nat.pow 10 zeros, x.exponent + zeros⟩

/-- The shortest decimal number that is read as the magnitude of a finite number. -/
def shortest (x : Binary64) : Decimal :=
  if x.mantissa = 0 then ⟨0, 0⟩
  else
    let lead := leadingExponent (x.mantissa * Nat.pow 2 x.exponent.toNat) (Nat.pow 2 (-x.exponent).toNat)
    (shortestFrom x lead 1 17).stripped

end MediaLibrary.Binary64
