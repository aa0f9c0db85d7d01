/-
File sizes with binary units.
-/
import MediaLibrary.Binary64.Layout

namespace MediaLibrary.FileSize

/-- The units above the byte, the largest first, with the power of 1024 each
stands for. -/
def units : List (String × Nat) :=
  [("EiB", 6), ("PiB", 5), ("TiB", 4), ("GiB", 3), ("MiB", 2), ("KiB", 1)]

/-- A size in the largest unit of which it holds at least one, with two places; a
size below all of them in whole bytes. -/
def text (bytes : UInt64) : String :=
  match units.find? fun unit => Nat.pow 1024 unit.2 ≤ bytes.toNat with
  | none => s!"{bytes.toNat} B"
  | some (name, power) =>
    let inUnit := (Binary64.ofNat bytes.toNat).div (Binary64.ofNat (Nat.pow 1024 power))
    s!"{inUnit.fixedText 2} {name}"

example : text 1023 = "1023 B" ∧ text 1536 = "1.50 KiB" ∧ text 1048575 = "1024.00 KiB" := by
  decide +kernel

end MediaLibrary.FileSize
