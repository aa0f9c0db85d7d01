/-
How floating point numbers are written.

Three forms are in use.  Plain text never has an exponent: the digits stand where
their weight puts them, and a whole number has no point.  The form of data files
always shows that the number is no integer, by a point or by an exponent, and
writes very large and very small numbers with one.  The form of reports has a
fixed number of places.
-/
import MediaLibrary.Binary64.Shortest

namespace MediaLibrary.Binary64

/-- The texts of what is no number. -/
def specialText? (x : Binary64) : Option String :=
  if x.isNaN then some "NaN"
  else if x.isInfinite then some (if x.isNegative then "-inf" else "inf")
  else none

/-- The sign in front of a finite number; minus zero has one too. -/
def signText (x : Binary64) : String :=
  if x.isNegative then "-" else ""

/-- `count` zeros. -/
def zeros (count : Nat) : String :=
  String.ofList (List.replicate count '0')

/-- Digits with their point after the first `whole` of them, zeros filling what is
missing on either side. -/
def positional (digits : List Char) (whole : Int) : String :=
  if whole ≤ 0 then "0." ++ zeros (-whole).toNat ++ String.ofList digits
  else if digits.length ≤ whole.toNat then
    String.ofList digits ++ zeros (whole.toNat - digits.length)
  else
    String.ofList (digits.take whole.toNat) ++ "." ++ String.ofList (digits.drop whole.toNat)

/-- Plain text: the fewest digits that read back, and never an exponent. -/
def plainText (x : Binary64) : String :=
  match specialText? x with
  | some text => text
  | none =>
    if x.isZero then signText x ++ "0"
    else
      let d := x.shortest
      let digits := d.digits.repr.toList
      signText x ++ positional digits (digits.length + d.exponent)

instance : ToString Binary64 := ⟨plainText⟩

/-- Where the form of data files leaves positional notation: a number is written
with an exponent when its point would stand after more than `most` digits or
before at least `least` zeros. -/
structure ExponentRange where
  most : Int
  least : Int

/-- Up to sixteen digits before the point and fewer than five zeros after it. -/
def dataRange : ExponentRange := ⟨16, 5⟩

/-- The form of data files, for a finite number: the fewest digits that read back,
with a point or an exponent. -/
def dataText (x : Binary64) : String :=
  if x.isZero then signText x ++ "0.0"
  else
    let d := x.shortest
    let digits := d.digits.repr.toList
    let whole : Int := digits.length + d.exponent
    let text :=
      if -dataRange.least < whole ∧ whole ≤ dataRange.most then
        positional digits whole ++ (if digits.length ≤ whole.toNat then ".0" else "")
      else
        let point := if digits.length ≤ 1 then "" else "." ++ String.ofList (digits.drop 1)
        let sign := if 0 ≤ whole - 1 then "+" else "-"
        String.ofList (digits.take 1) ++ point ++ "e" ++ sign ++ (whole - 1).natAbs.repr
    signText x ++ text

/-- A fixed number of places after the point, at least one; the exact value is
rounded, a half to the even digit. -/
def fixedText (places : Nat) (x : Binary64) : String :=
  match specialText? x with
  | some text => text
  | none =>
    let (n, d) := inUnits (x.mantissa * Nat.pow 10 places) 1 (-x.exponent)
    let scaled := roundDiv n d
    let digits := (Text.padNat (places + 1) scaled).toList
    signText x ++ positional digits (digits.length - places)

example : plainText ⟨0x3FB999999999999A⟩ = "0.1" := by decide +kernel
example : dataText (ofNat 90) = "90.0" ∧ dataText (ofNat (10 ^ 16)) = "1e+16" := by decide +kernel
example : fixedText 3 ⟨0x3FB0000000000000⟩ = "0.062" := by decide +kernel

end MediaLibrary.Binary64
