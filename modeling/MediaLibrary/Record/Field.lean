/-
The fields of a record.

A field is an attribute of records that can be named: in a sort key, in a grouping,
or as a column.  Fields are stored or derived alike.
-/
import MediaLibrary.Record.Basic
import MediaLibrary.Record.FieldValue

namespace MediaLibrary

/-- The fields of a record. -/
inductive Field where
  | id
  | path
  | filename
  | title
  | size
  | length
  | date
  | width
  | height
  | resolution
  | frameRate
  | bitRate
  | sampleRate
  | audioBitRate
  | channels
  | containerFormat
  | videoCodec
  | audioCodec
  | found
  | readable
  | watched
  | discarded
  | withThumbnails
  deriving DecidableEq

namespace Field

/-- All fields. -/
def all : List Field :=
  [id, path, filename, title, size, length, date, width, height, resolution, frameRate, bitRate,
    sampleRate, audioBitRate, channels, containerFormat, videoCodec, audioCodec, found, readable,
    watched, discarded, withThumbnails]

/-- The name of a field. -/
def name : Field → String
  | id => "id"
  | path => "path"
  | filename => "filename"
  | title => "title"
  | size => "size"
  | length => "length"
  | date => "date"
  | width => "width"
  | height => "height"
  | resolution => "resolution"
  | frameRate => "frame_rate"
  | bitRate => "bit_rate"
  | sampleRate => "sample_rate"
  | audioBitRate => "audio_bit_rate"
  | channels => "channels"
  | containerFormat => "container_format"
  | videoCodec => "video_codec"
  | audioCodec => "audio_codec"
  | found => "found"
  | readable => "readable"
  | watched => "watched"
  | discarded => "discarded"
  | withThumbnails => "with_thumbnails"

instance : ToString Field := ⟨name⟩

theorem mem_all (f : Field) : f ∈ all := by
  cases f <;> decide

/-- The field with exactly a given name; the length may also be called duration. -/
def ofName? (name : String) : Option Field :=
  if name = "duration" then some length else all.find? (·.name = name)

/-- The field that a text names, blanks around it aside. -/
def ofText? (text : String) : Option Field :=
  ofName? (Text.trim text)

/-- The field that a text names, which has to exist. -/
def ofText (text : String) : Except UnknownName Field :=
  UnknownName.orElse "field" text (ofText? text)

/-- A field whose value takes more than one column of a table. -/
def spansColumns : Field → Bool
  | resolution => true
  | _ => false

/-- The value of a field in a record.  Identifiers are compared as signed
numbers. -/
def valueOf (r : Record) : Field → FieldValue
  | id => .int r.id.toInt64
  | path => .text r.path
  | filename => .text r.fileName
  | title => .text r.title
  | size => .size r.size
  | length => .length r.length
  | date => .date r.date
  | width => .int (Int64.ofNat r.width.toNat)
  | height => .int (Int64.ofNat r.height.toNat)
  | resolution => .resolution r.width r.height
  | frameRate => .float r.frameRate
  | bitRate => .float r.bitRate
  | sampleRate => .int (Int64.ofNat r.sampleRate.toNat)
  | audioBitRate => .int (Int64.ofNat r.audioBitRate.toNat)
  | channels => .int (Int64.ofNat r.channels.toNat)
  | containerFormat => .text r.containerFormat
  | videoCodec => .text r.videoCodec
  | audioCodec => .text r.audioCodec
  | found => .bool r.flags.found
  | readable => .bool r.flags.readable
  | watched => .bool r.flags.watched
  | discarded => .bool r.flags.discarded
  | withThumbnails => .bool r.flags.hasThumbnail

end Field

end MediaLibrary
