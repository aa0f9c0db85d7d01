/-
Floating point numbers read from decimal text.

A number is an optional sign, digits with at most one point among or around them,
and an optional exponent; at least one digit is needed, but on either side of the
point.  The words `inf`, `infinity` and `nan` are read in any mixture of cases.
The result is the nearest binary64 number to what is written, however many digits
it has.
-/
import MediaLibrary.Binary64.Basic
import MediaLibrary.Text.Numeral

namespace MediaLibrary.Binary64

open Text

/-- A decimal number: `digits · 10 ^ exponent`. -/
structure Decimal where
  digits : Nat
  exponent : Int

/-- The number of decimal digits of a natural number; none for zero. -/
def digitCount (n : Nat) : Nat :=
  if n = 0 then 0 else n.repr.length

/-- The nearest number to a decimal one.  Below `10 ^ -400` and from `10 ^ 400` on
the outcome no longer depends on the digits, so the powers of ten stay small. -/
def ofDecimal (negative : Bool) (x : Decimal) : Binary64 :=
  let top : Int := digitCount x.digits + x.exponent
  if x.digits = 0 ∨ top < -400 then ofSign negative 0
  else if 400 < top then infinity negative
  else ofRatio negative (x.digits * Nat.pow 10 x.exponent.toNat) (Nat.pow 10 (-x.exponent).toNat)

/-- The exponent part, from its mark to the end of the text. -/
def exponentPart? : List Char → Option Int
  | [] => some 0
  | mark :: rest =>
    if mark = 'e' ∨ mark = 'E' then
      match rest with
      | '-' :: digits => (natural? digits).map fun n => -(n : Int)
      | _ => (natural? (dropPlus rest)).map fun n => (n : Int)
    else none

/-- A decimal number without a sign. -/
def decimal? (cs : List Char) : Option Decimal :=
  let whole := cs.takeWhile isDigit
  let rest := cs.dropWhile isDigit
  let (places, rest) := match rest with
    | '.' :: rest => (rest.takeWhile isDigit, rest.dropWhile isDigit)
    | _ => ([], rest)
  if whole.isEmpty && places.isEmpty then none
  else (exponentPart? rest).map fun e => ⟨digitsValue (whole ++ places), e - places.length⟩

/-- The lower-case form of an ASCII letter. -/
def asciiLower (cs : List Char) : String :=
  String.ofList (cs.map Char.toLower)

/-- A number without a sign. -/
def unsignedText? (negative : Bool) (cs : List Char) : Option Binary64 :=
  match asciiLower cs with
  | "inf" | "infinity" => some (infinity negative)
  | "nan" => some (nan negative)
  | _ => (decimal? cs).map (ofDecimal negative)

/-- The number that a text writes, if it writes one. -/
def ofText? (s : String) : Option Binary64 :=
  match s.toList with
  | '-' :: rest => unsignedText? true rest
  | cs => unsignedText? false (dropPlus cs)

example : ofText? "5." = some (ofNat 5) ∧ ofText? "." = none ∧ ofText? "e5" = none := by
  decide +kernel
example : ofText? "1e400" = some (infinity false) ∧ ofText? "2e-324" = some zero := by
  decide +kernel

end MediaLibrary.Binary64
