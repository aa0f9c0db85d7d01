/-
Why the store refuses an operation.
-/
import MediaLibrary.Property.Definition
import MediaLibrary.Record.Basic

namespace MediaLibrary

/-- Why the store refuses an operation. -/
inductive StoreError where
  | recordNotFound (id : RecordId)
  | emptyPath
  | idOutOfRange (id : RecordId)
  | idRepeated (id : RecordId)
  | idTaken (id : RecordId)
  | badRecordKey (bytes : Nat)
  | unreadableIndex (reason : String)
  | schema (error : SchemaError)
  deriving DecidableEq

/-- Why the store refuses, in words. -/
def StoreError.message : StoreError → String
  | recordNotFound id => s!"Record not found: {id.toNat}"
  | emptyPath => "Invalid input: record path is empty"
  | idOutOfRange id => s!"Invalid input: record id {id.toNat} is out of range"
  | idRepeated id => s!"Invalid input: record id {id.toNat} is repeated in the batch"
  | idTaken id => s!"Invalid input: record id {id.toNat} is already in use"
  | badRecordKey bytes => s!"Invalid input: record key of {bytes} bytes"
  | unreadableIndex reason => s!"Invalid input: {reason}"
  | schema error => error.message

/-- Why a store cannot be opened: a file is where a directory should be, a name is too long
or cannot be a name, or what is kept there is no store. -/
inductive OpenFault where
  | notDirectory
  | longName
  | zeroInName
  | damaged
  deriving DecidableEq

/-- Why a store cannot be opened, in the words of the system. -/
def OpenFault.message : OpenFault → String
  | notDirectory => "IO error: Not a directory (os error 20)"
  | longName => "IO error: File name too long (os error 36)"
  | zeroInName => "IO error: file name contained an unexpected NUL byte"
  | damaged => "the store is damaged"

end MediaLibrary
