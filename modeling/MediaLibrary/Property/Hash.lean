/-
What is hashed of a value.

A key is looked up in a hash table by a number that is mixed from the bytes that the key
hands over.  A value hands over the place of its kind and then its content: a truth
value as one byte, a number as eight with the least first, and a text as its bytes with
one behind them that no text contains.
-/
import MediaLibrary.Bytes.Basic
import MediaLibrary.Property.Value

namespace MediaLibrary.Value

/-- The bytes of a value's content. -/
def hashedContent : Value → List UInt8
  | bool b => Bytes.ofBool b
  | int i => Bytes.littleEndian 8 i.toUInt64.toNat
  | float x => Bytes.littleEndian 8 x.bits.toNat
  | str s => s.toUTF8.data.toList ++ [255]

/-- The bytes that a value hands over to be hashed. -/
def hashed (v : Value) : List UInt8 :=
  UInt8.ofNat v.rank :: v.hashedContent

end MediaLibrary.Value
