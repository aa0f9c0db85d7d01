/-
Records of media files.

A record holds what is known about one file: where it is, what was measured in it,
how the library treats it, and the values of the properties attached to it.  What
can be computed from that is not stored.  A rate over a time that is zero is zero,
so the derived numbers are defined for every record.
-/
import MediaLibrary.Property.Value
import MediaLibrary.Record.FilePath
import Std.Data.ExtTreeMap

namespace MediaLibrary

open Std

/-- The number by which a record is known; zero until it has been given one. -/
abbrev RecordId := UInt64

/-- The states of a record. -/
structure Flags where
  found : Bool := true
  readable : Bool := true
  hasThumbnail : Bool := false
  watched : Bool := false
  discarded : Bool := false
  deriving DecidableEq

/-- The name of one state. -/
inductive Flag where
  | found
  | readable
  | hasThumbnail
  | watched
  | discarded
  deriving DecidableEq

/-- The name by which a state is written in filters. -/
def Flag.name : Flag → String
  | found => "found"
  | readable => "readable"
  | hasThumbnail => "with_thumbnails"
  | watched => "watched"
  | discarded => "discarded"

/-- All states. -/
def Flag.all : List Flag := [found, readable, hasThumbnail, watched, discarded]

/-- The state with a name. -/
def Flag.ofName? (name : String) : Option Flag := all.find? (·.name = name)

/-- Whether a record is in a state. -/
def Flags.get (flags : Flags) : Flag → Bool
  | .found => flags.found
  | .readable => flags.readable
  | .hasThumbnail => flags.hasThumbnail
  | .watched => flags.watched
  | .discarded => flags.discarded

/-- The values of a record's properties, by name.  A property without values is
absent. -/
abbrev Properties := ExtTreeMap String (List Value)

/-- A record of a media file.  The duration is counted in units of which `timeBase`
make a second; the date is that of the last change of the file, in seconds since
1970. -/
structure Record where
  id : RecordId := 0
  path : String := ""
  title : String := ""
  size : UInt64 := 0
  duration : UInt64 := 0
  timeBase : UInt64 := 0
  date : Int64 := 0
  containerFormat : String := ""
  videoCodec : String := ""
  audioCodec : String := ""
  width : UInt32 := 0
  height : UInt32 := 0
  frameRateNum : UInt32 := 0
  frameRateDen : UInt32 := 0
  sampleRate : UInt32 := 0
  audioBitRate : UInt32 := 0
  channels : UInt32 := 0
  flags : Flags := {}
  properties : Properties := ∅
  deriving DecidableEq

namespace Record

/-- The duration in seconds. -/
def length (r : Record) : Binary64 :=
  if r.timeBase = 0 then Binary64.zero
  else (Binary64.ofNat r.duration.toNat).div (Binary64.ofNat r.timeBase.toNat)

/-- Bits per second over the whole file. -/
def bitRate (r : Record) : Binary64 :=
  if r.length.isZero then Binary64.zero
  else ((Binary64.ofNat r.size.toNat).mul (Binary64.ofNat 8)).div r.length

/-- Pictures per second. -/
def frameRate (r : Record) : Binary64 :=
  if r.frameRateDen = 0 then Binary64.zero
  else (Binary64.ofNat r.frameRateNum.toNat).div (Binary64.ofNat r.frameRateDen.toNat)

/-- The name of the file. -/
def fileName (r : Record) : String :=
  FilePath.fileName r.path

/-- The name of the file without its extension. -/
def fileTitle (r : Record) : String :=
  FilePath.fileStem r.path

/-- The values of a property. -/
def values (r : Record) (property : String) : List Value :=
  r.properties.getD property []

/-- The record with other values for a property; without values it loses it. -/
def setValues (r : Record) (property : String) (values : List Value) : Record :=
  { r with
    properties :=
      if values.isEmpty then r.properties.erase property
      else r.properties.insert property values }

/-- The text property values, by the name of their property. -/
def propertyTexts (r : Record) : List String :=
  r.properties.toList.flatMap fun (_, values) => values.filterMap Value.asText?

/-- The parts of the text in which records are searched. -/
def searchParts (r : Record) : List String :=
  r.path :: r.fileTitle :: r.title :: r.propertyTexts

/-- The text in which records are searched. -/
def searchText (r : Record) : String :=
  " ".intercalate r.searchParts

end Record

end MediaLibrary
