/-
The image of a store.

Between two calls of the program a store lies in a file as a single byte string: the next
identifier, the definitions, and the records.  The reverse indices are not written, since
they follow from the records; reading the image puts one record after the other into an
empty store, which builds them again.  On every store that can be reached they come out as
they were (`Store.Sound.ofParts_eq`), as if they had been kept.
-/
import MediaLibrary.Store.Basic

namespace MediaLibrary

open Bytes

namespace Bytes

/-- The written form of a list: how many items there are, and one after another. -/
def ofList {α : Type} (write : α → List UInt8) (items : List α) : List UInt8 :=
  ofNat items.length ++ items.flatMap write

/-- A list. -/
def list {α : Type} (read : Reader α) : Reader (List α) := do
  times read (← length 1)

/-- The written form of what may be missing. -/
def ofOption {α : Type} (write : α → List UInt8) : Option α → List UInt8
  | none => ofBool false
  | some a => ofBool true ++ write a

/-- What may be missing. -/
def option {α : Type} (read : Reader α) : Reader (Option α) := do
  if ← bool then return some (← read) else return none

/-- An unsigned 64-bit number. -/
def unsigned64 : Reader UInt64 :=
  return UInt64.ofNat (← natural64)

/-- An unsigned 32-bit number. -/
def unsigned32 : Reader UInt32 :=
  return UInt32.ofNat (← natural32)

end Bytes

/-! ### Definitions -/

/-- The number of a kind. -/
def Kind.number : Kind → Nat
  | bool => 0
  | int => 1
  | float => 2
  | str => 3

/-- A kind. -/
def Kind.read : Reader Kind := do
  match ← natural32 with
  | 0 => return .bool
  | 1 => return .int
  | 2 => return .float
  | 3 => return .str
  | _ => throw .malformed

/-- The written form of a definition. -/
def Definition.toBytes (d : Definition) : List UInt8 :=
  ofText d.name ++ ofNat d.kind.number ++ ofBool d.multiple ++
    ofOption (ofList Value.toBytes) d.enumeration ++ d.default.toBytes

/-- A definition. -/
def Definition.read : Reader Definition :=
  return {
    name := ← text
    kind := ← Kind.read
    multiple := ← bool
    enumeration := ← option (list Value.read)
    default := ← Value.read }

/-! ### Records -/

/-- The written form of the states of a record. -/
def Flags.toBytes (flags : Flags) : List UInt8 :=
  ofBool flags.found ++ ofBool flags.readable ++ ofBool flags.hasThumbnail ++
    ofBool flags.watched ++ ofBool flags.discarded

/-- The states of a record. -/
def Flags.read : Reader Flags :=
  return {
    found := ← bool
    readable := ← bool
    hasThumbnail := ← bool
    watched := ← bool
    discarded := ← bool }

/-- The written form of the values of a property. -/
def propertyToBytes : String × List Value → List UInt8
  | (name, values) => ofText name ++ ofList Value.toBytes values

/-- The values of a property. -/
def readProperty : Reader (String × List Value) :=
  return (← text, ← list Value.read)

/-- The written form of a record. -/
def Record.toBytes (r : Record) : List UInt8 :=
  ofNat r.id.toNat ++ ofText r.path ++ ofText r.title ++ ofNat r.size.toNat ++
    ofNat r.duration.toNat ++ ofNat r.timeBase.toNat ++ ofNat (zigzag r.date.toInt) ++
    ofText r.containerFormat ++ ofText r.videoCodec ++ ofText r.audioCodec ++
    ofNat r.width.toNat ++ ofNat r.height.toNat ++ ofNat r.frameRateNum.toNat ++
    ofNat r.frameRateDen.toNat ++ ofNat r.sampleRate.toNat ++ ofNat r.audioBitRate.toNat ++
    ofNat r.channels.toNat ++ r.flags.toBytes ++ ofList propertyToBytes r.properties.toList

/-- A record. -/
def Record.read : Reader Record :=
  return {
    id := ← unsigned64
    path := ← text
    title := ← text
    size := ← unsigned64
    duration := ← unsigned64
    timeBase := ← unsigned64
    date := ← signed64
    containerFormat := ← text
    videoCodec := ← text
    audioCodec := ← text
    width := ← unsigned32
    height := ← unsigned32
    frameRateNum := ← unsigned32
    frameRateDen := ← unsigned32
    sampleRate := ← unsigned32
    audioBitRate := ← unsigned32
    channels := ← unsigned32
    flags := ← Flags.read
    properties := Std.ExtTreeMap.ofList (← list readProperty) compare }

/-! ### Stores -/

namespace Store

/-- The image of a store. -/
def toBytes (s : Store) : List UInt8 :=
  ofNat s.nextId.toNat ++ ofList Definition.toBytes s.loadDefinitions ++
    ofList Record.toBytes s.toList

/-- The store that holds some definitions and records.  Made of the parts of a sound store it is
that store again, indices included: `Sound.ofParts_eq`. -/
def ofParts (nextId : RecordId) (definitions : List Definition) (records : List Record) : Store :=
  records.foldl put (definitions.foldl saveDefinition { nextId })

/-- A store. -/
def read : Reader Store :=
  return ofParts (← unsigned64) (← list Definition.read) (← list Record.read)

/-- The store of which some bytes are the image. -/
def ofBytes (bytes : List UInt8) : Except Fault Store :=
  first read bytes

end Store

end MediaLibrary
