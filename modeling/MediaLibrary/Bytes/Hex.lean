/-
Bytes as hexadecimal digits.

Every byte is written with two digits, the higher one first.
-/
import MediaLibrary.Text.Hexadecimal

namespace MediaLibrary.Bytes

open Text

/-- The digits of some bytes. -/
def toHex (bytes : List UInt8) : String :=
  String.ofList (bytes.flatMap fun b => [hexDigit (b.toNat / 16), hexDigit (b.toNat % 16)])

/-- The bytes that some digits write. -/
def ofHexDigits? : List Char → Option (List UInt8)
  | [] => some []
  | [_] => none
  | a :: b :: rest => do
    let byte ← hexValue? [a, b]
    return UInt8.ofNat byte :: (← ofHexDigits? rest)

/-- The bytes that a text of digits writes. -/
def ofHex? (s : String) : Option (List UInt8) :=
  ofHexDigits? s.toList

example : toHex [0, 255, 16] = "00ff10" ∧ ofHex? "00fF10" = some [0, 255, 16] := by
  decide +kernel

end MediaLibrary.Bytes
