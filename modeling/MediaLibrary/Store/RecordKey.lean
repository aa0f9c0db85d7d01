/-
Keys of records.

A record is kept under its identifier as eight bytes, the highest first.  The keys are
then ordered as the identifiers are.
-/
import MediaLibrary.Bytes.Basic
import MediaLibrary.Store.Error

namespace MediaLibrary.RecordId

/-- The key of a record. -/
def key (id : RecordId) : List UInt8 :=
  (Bytes.littleEndian 8 id.toNat).reverse

/-- The identifier of which some bytes are the key. -/
def ofKey (bytes : List UInt8) : Except StoreError RecordId :=
  if bytes.length = 8 then .ok (UInt64.ofNat (Bytes.ofLittleEndian bytes.reverse))
  else .error (.badRecordKey bytes.length)

end MediaLibrary.RecordId
