/-
Records in JSON.

Every field of a record has a default, so any part of a record may be left out.
-/
import MediaLibrary.Json.Property
import MediaLibrary.Record.Field

namespace MediaLibrary

open Std

namespace Flags

/-- All states of a record. -/
def toJson (f : Flags) : Json :=
  .obj [("found", .bool f.found), ("readable", .bool f.readable),
    ("has_thumbnail", .bool f.hasThumbnail), ("watched", .bool f.watched),
    ("discarded", .bool f.discarded)]

/-- The states of a record; those left out are as in a new one. -/
def ofJson? (j : Json) : Option Flags := do
  let f ← j.fields? ["found", "readable", "has_thumbnail", "watched", "discarded"]
  let default : Flags := {}
  return {
    found := ← f.withDefault "found" Json.toBool? default.found
    readable := ← f.withDefault "readable" Json.toBool? default.readable
    hasThumbnail := ← f.withDefault "has_thumbnail" Json.toBool? default.hasThumbnail
    watched := ← f.withDefault "watched" Json.toBool? default.watched
    discarded := ← f.withDefault "discarded" Json.toBool? default.discarded }

end Flags

namespace Properties

/-- The values by property. -/
def toJson (p : Properties) : Json :=
  .obj (p.toList.map fun (name, values) => (name, Value.listToJson values))

/-- The values by property; of a property written twice the later counts. -/
def ofJson? : Json → Option Properties
  | .obj members =>
    members.foldlM (fun all (name, j) =>
      (Json.readList Value.ofJson? j).map fun values => all.insert name values) ∅
  | _ => none

end Properties

namespace Record

/-- A record with all of its fields. -/
def toJson (r : Record) : Json :=
  .obj [("id", .ofUInt64 r.id), ("path", .str r.path), ("title", .str r.title),
    ("size", .ofUInt64 r.size), ("duration", .ofUInt64 r.duration),
    ("duration_time_base", .ofUInt64 r.timeBase), ("date", .ofInt64 r.date),
    ("container_format", .str r.containerFormat), ("video_codec", .str r.videoCodec),
    ("audio_codec", .str r.audioCodec), ("width", .ofUInt32 r.width),
    ("height", .ofUInt32 r.height), ("frame_rate_num", .ofUInt32 r.frameRateNum),
    ("frame_rate_den", .ofUInt32 r.frameRateDen), ("sample_rate", .ofUInt32 r.sampleRate),
    ("audio_bit_rate", .ofUInt32 r.audioBitRate), ("channels", .ofUInt32 r.channels),
    ("flags", r.flags.toJson), ("properties", Properties.toJson r.properties)]

/-- The names of the fields of a record, in their order. -/
def fieldNames : List String :=
  ["id", "path", "title", "size", "duration", "duration_time_base", "date", "container_format",
    "video_codec", "audio_codec", "width", "height", "frame_rate_num", "frame_rate_den",
    "sample_rate", "audio_bit_rate", "channels", "flags", "properties"]

/-- A record; fields left out are as in a new one. -/
def ofJson? (j : Json) : Option Record := do
  let f ← j.fields? fieldNames
  return {
    id := ← f.withDefault "id" Json.toUInt64? 0
    path := ← f.withDefault "path" Json.toString? ""
    title := ← f.withDefault "title" Json.toString? ""
    size := ← f.withDefault "size" Json.toUInt64? 0
    duration := ← f.withDefault "duration" Json.toUInt64? 0
    timeBase := ← f.withDefault "duration_time_base" Json.toUInt64? 0
    date := ← f.withDefault "date" Json.toInt64? 0
    containerFormat := ← f.withDefault "container_format" Json.toString? ""
    videoCodec := ← f.withDefault "video_codec" Json.toString? ""
    audioCodec := ← f.withDefault "audio_codec" Json.toString? ""
    width := ← f.withDefault "width" Json.toUInt32? 0
    height := ← f.withDefault "height" Json.toUInt32? 0
    frameRateNum := ← f.withDefault "frame_rate_num" Json.toUInt32? 0
    frameRateDen := ← f.withDefault "frame_rate_den" Json.toUInt32? 0
    sampleRate := ← f.withDefault "sample_rate" Json.toUInt32? 0
    audioBitRate := ← f.withDefault "audio_bit_rate" Json.toUInt32? 0
    channels := ← f.withDefault "channels" Json.toUInt32? 0
    flags := ← f.withDefault "flags" Flags.ofJson? {}
    properties := ← f.withDefault "properties" Properties.ofJson? ∅ }

end Record

namespace FieldValue

/-- A field value without its unit. -/
def toJson : FieldValue → Json
  | bool b => .bool b
  | int i => .ofInt64 i
  | float x => .ofBinary64 x
  | text s => .str s
  | size bytes => .ofUInt64 bytes
  | length seconds => .ofBinary64 seconds
  | date seconds => .ofInt64 seconds
  | resolution width height => .arr [.ofUInt32 width, .ofUInt32 height]

/-- A field value by its form alone: numbers are whole numbers where they fit, and
two of them are a resolution. -/
def ofJson? : Json → Option FieldValue
  | .bool b => some (bool b)
  | .str s => some (text s)
  | .arr [w, h] => do return resolution (← w.toUInt32?) (← h.toUInt32?)
  | j => match j.toInt64? with
    | some i => some (int i)
    | none => j.toBinary64?.map float

end FieldValue

namespace Field

/-- A field by its name. -/
def toJson (f : Field) : Json := .str f.name

/-- The field with a written name. -/
def ofJson? : Json → Option Field := Json.readName ofName?

end Field

end MediaLibrary
