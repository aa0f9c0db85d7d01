/-
What is written in JSON is read back.

A whole number and a float are written in different forms, so a value is read back as the kind
that it was: the reader tries the kinds in turn, and each form is that of one kind only.  A float
that is no finite number has no form, which is the one thing that is asked of a record or of the
layers of a view before they are written.

A record is read field by field, and what is read under the name of a field does not depend on
the other members.  `Record.ReadFrom` states that for all fields at once.  Leaving members out, or
leaving fields of the flags out, is then a change of what is found under some names.
-/
import MediaLibrary.Json.View
import MediaLibrary.Proofs.Json.Shape
import MediaLibrary.Proofs.OrderedMap
import MediaLibrary.Proofs.Query.Written

namespace MediaLibrary

open Std

/-! ### Values of properties -/

namespace Value

/-- A value that has a form in JSON: any but infinite floats and those that are no numbers. -/
def isFinite : Value → Bool
  | float x => x.isFinite
  | _ => true

/-- **A value is read back as the value of its kind.** -/
theorem ofJson?_toJson {v : Value} (h : v.isFinite) : ofJson? v.toJson = some v := by
  cases v with
  | bool b => rfl
  | int i =>
      obtain ⟨n, hn⟩ : ∃ n, Json.ofInt64 i = .number n := by
        rw [Json.ofInt64]
        split <;> exact ⟨_, rfl⟩
      have hread := Json.toInt64?_ofInt64 i
      rw [hn] at hread
      rw [toJson, hn]
      simp [ofJson?, hread]
  | float x =>
      have hx : x.isFinite := h
      rw [toJson, Json.ofBinary64, if_pos hx]
      rfl
  | str s => rfl

theorem readList_listToJson {values : List Value} (h : ∀ v ∈ values, v.isFinite) :
    Json.readList ofJson? (listToJson values) = some values :=
  Json.readList_map values fun v hv => ofJson?_toJson (h v hv)

end Value

namespace Properties

/-- Every property is put back where it was. -/
theorem foldlM_entries (entries : List (String × List Value))
    (h : ∀ e ∈ entries, ∀ v ∈ e.2, v.isFinite) :
    ∀ all : Properties,
      (entries.map fun (name, values) => (name, Value.listToJson values)).foldlM
          (fun (all : Properties) (name, j) =>
            (Json.readList Value.ofJson? j).map fun values => all.insert name values) all =
        some (entries.foldl (fun all e => all.insert e.1 e.2) all) := by
  induction entries with
  | nil => intro all; rfl
  | cons e rest ih =>
      intro all
      obtain ⟨name, values⟩ := e
      have hread : Json.readList Value.ofJson? (Value.listToJson values) = some values :=
        Value.readList_listToJson (h (name, values) (by simp))
      rw [List.map_cons, List.foldlM_cons]
      dsimp only
      rw [hread]
      exact ih (fun e he => h e (by simp [he])) (all.insert name values)

/-- The values of properties are read back. -/
theorem ofJson?_toJson {p : Properties} (h : ∀ e ∈ p.toList, ∀ v ∈ e.2, v.isFinite) :
    ofJson? (toJson p) = some p := by
  rw [toJson, ofJson?, foldlM_entries p.toList h, OrderedMap.foldl_insert_toList]

end Properties

/-! ### Flags -/

namespace Flags

/-- The flags are what is found under their names. -/
structure ReadFrom (f : Json.Fields) (flags : Flags) : Prop where
  found : f.withDefault "found" Json.toBool? true = some flags.found
  readable : f.withDefault "readable" Json.toBool? true = some flags.readable
  hasThumbnail : f.withDefault "has_thumbnail" Json.toBool? false = some flags.hasThumbnail
  watched : f.withDefault "watched" Json.toBool? false = some flags.watched
  discarded : f.withDefault "discarded" Json.toBool? false = some flags.discarded

/-- The flags with the defaults of those that are missing. -/
def withDefaults (missing : String → Bool) (flags : Flags) : Flags :=
  let default : Flags := {}
  { found := if missing "found" then default.found else flags.found
    readable := if missing "readable" then default.readable else flags.readable
    hasThumbnail := if missing "has_thumbnail" then default.hasThumbnail else flags.hasThumbnail
    watched := if missing "watched" then default.watched else flags.watched
    discarded := if missing "discarded" then default.discarded else flags.discarded }

theorem ofJson?_eq_some_iff {j : Json} {flags : Flags} :
    ofJson? j = some flags ↔
      ∃ f, j.fields? ["found", "readable", "has_thumbnail", "watched", "discarded"] = some f ∧
        ReadFrom f flags := by
  simp only [ofJson?, Json.bind_eq_some_iff, Option.pure_def, Option.some.injEq]
  constructor
  · rintro ⟨f, hf, _, found, _, readable, _, thumbnail, _, watched, _, discarded, rfl⟩
    exact ⟨f, hf, found, readable, thumbnail, watched, discarded⟩
  · rintro ⟨f, hf, h⟩
    exact ⟨f, hf, _, h.found, _, h.readable, _, h.hasThumbnail, _, h.watched, _, h.discarded, rfl⟩

theorem ofJson?_toJson (flags : Flags) : ofJson? flags.toJson = some flags := by
  rfl

/-- Flags that are left out have their defaults. -/
theorem ofJson?_without (missing : String → Bool) {members : List (String × Json)} {flags : Flags}
    (h : ofJson? (.obj members) = some flags) :
    ofJson? ((Json.obj members).without missing) = some (flags.withDefaults missing) := by
  obtain ⟨f, hf, h⟩ := ofJson?_eq_some_iff.mp h
  refine ofJson?_eq_some_iff.mpr ⟨_, Json.fields?_without missing hf, ?_⟩
  cases h
  constructor <;> exact Json.Fields.withDefault_without missing ‹_›

end Flags

/-! ### Records -/

namespace Record

/-- No value of a property is infinite or not a number. -/
def IsFinite (r : Record) : Prop :=
  ∀ property, ∀ v ∈ r.values property, v.isFinite

/-- The record is what is found under the names of its fields. -/
structure ReadFrom (f : Json.Fields) (r : Record) : Prop where
  id : f.withDefault "id" Json.toUInt64? 0 = some r.id
  path : f.withDefault "path" Json.toString? "" = some r.path
  title : f.withDefault "title" Json.toString? "" = some r.title
  size : f.withDefault "size" Json.toUInt64? 0 = some r.size
  duration : f.withDefault "duration" Json.toUInt64? 0 = some r.duration
  timeBase : f.withDefault "duration_time_base" Json.toUInt64? 0 = some r.timeBase
  date : f.withDefault "date" Json.toInt64? 0 = some r.date
  containerFormat : f.withDefault "container_format" Json.toString? "" = some r.containerFormat
  videoCodec : f.withDefault "video_codec" Json.toString? "" = some r.videoCodec
  audioCodec : f.withDefault "audio_codec" Json.toString? "" = some r.audioCodec
  width : f.withDefault "width" Json.toUInt32? 0 = some r.width
  height : f.withDefault "height" Json.toUInt32? 0 = some r.height
  frameRateNum : f.withDefault "frame_rate_num" Json.toUInt32? 0 = some r.frameRateNum
  frameRateDen : f.withDefault "frame_rate_den" Json.toUInt32? 0 = some r.frameRateDen
  sampleRate : f.withDefault "sample_rate" Json.toUInt32? 0 = some r.sampleRate
  audioBitRate : f.withDefault "audio_bit_rate" Json.toUInt32? 0 = some r.audioBitRate
  channels : f.withDefault "channels" Json.toUInt32? 0 = some r.channels
  flags : f.withDefault "flags" Flags.ofJson? {} = some r.flags
  properties : f.withDefault "properties" Properties.ofJson? ∅ = some r.properties

/-- The record with the defaults of the fields that are missing. -/
def withDefaults (missing : String → Bool) (r : Record) : Record :=
  let default : Record := {}
  { id := if missing "id" then default.id else r.id
    path := if missing "path" then default.path else r.path
    title := if missing "title" then default.title else r.title
    size := if missing "size" then default.size else r.size
    duration := if missing "duration" then default.duration else r.duration
    timeBase := if missing "duration_time_base" then default.timeBase else r.timeBase
    date := if missing "date" then default.date else r.date
    containerFormat :=
      if missing "container_format" then default.containerFormat else r.containerFormat
    videoCodec := if missing "video_codec" then default.videoCodec else r.videoCodec
    audioCodec := if missing "audio_codec" then default.audioCodec else r.audioCodec
    width := if missing "width" then default.width else r.width
    height := if missing "height" then default.height else r.height
    frameRateNum := if missing "frame_rate_num" then default.frameRateNum else r.frameRateNum
    frameRateDen := if missing "frame_rate_den" then default.frameRateDen else r.frameRateDen
    sampleRate := if missing "sample_rate" then default.sampleRate else r.sampleRate
    audioBitRate := if missing "audio_bit_rate" then default.audioBitRate else r.audioBitRate
    channels := if missing "channels" then default.channels else r.channels
    flags := if missing "flags" then default.flags else r.flags
    properties := if missing "properties" then default.properties else r.properties }

theorem ofJson?_eq_some_iff {j : Json} {r : Record} :
    ofJson? j = some r ↔ ∃ f, j.fields? fieldNames = some f ∧ ReadFrom f r := by
  simp only [ofJson?, Json.bind_eq_some_iff, Option.pure_def, Option.some.injEq]
  constructor
  · rintro ⟨f, hf, _, id, _, path, _, title, _, size, _, duration, _, timeBase, _, date,
      _, containerFormat, _, videoCodec, _, audioCodec, _, width, _, height, _, frameRateNum,
      _, frameRateDen, _, sampleRate, _, audioBitRate, _, channels, _, flags, _, properties, rfl⟩
    exact ⟨f, hf, id, path, title, size, duration, timeBase, date, containerFormat, videoCodec,
      audioCodec, width, height, frameRateNum, frameRateDen, sampleRate, audioBitRate, channels,
      flags, properties⟩
  · rintro ⟨f, hf, h⟩
    exact ⟨f, hf, _, h.id, _, h.path, _, h.title, _, h.size, _, h.duration, _, h.timeBase,
      _, h.date, _, h.containerFormat, _, h.videoCodec, _, h.audioCodec, _, h.width, _, h.height,
      _, h.frameRateNum, _, h.frameRateDen, _, h.sampleRate, _, h.audioBitRate, _, h.channels,
      _, h.flags, _, h.properties, rfl⟩

theorem ReadFrom.without (missing : String → Bool) {f : Json.Fields} {r : Record}
    (h : ReadFrom f r) : ReadFrom (f.without missing) (r.withDefaults missing) := by
  cases h
  -- One argument for every field: what is found under its name is not what is found under others.
  constructor <;> exact Json.Fields.withDefault_without missing ‹_›

/-- **Fields that are left out have their defaults**, and the others are what they were. -/
theorem ofJson?_without (missing : String → Bool) {members : List (String × Json)} {r : Record}
    (h : ofJson? (.obj members) = some r) :
    ofJson? ((Json.obj members).without missing) = some (r.withDefaults missing) := by
  obtain ⟨f, hf, h⟩ := ofJson?_eq_some_iff.mp h
  exact ofJson?_eq_some_iff.mpr ⟨_, Json.fields?_without missing hf, h.without missing⟩

/-- Flags that are left out of a record have their defaults. -/
theorem ofJson?_mapMember_flags (missing : String → Bool) {members flags : List (String × Json)}
    {r : Record} (h : ofJson? (.obj members) = some r)
    (hflags : members.lookup "flags" = some (.obj flags)) :
    ofJson? ((Json.obj members).mapMember "flags" (Json.without missing)) =
      some { r with flags := r.flags.withDefaults missing } := by
  obtain ⟨f, hf, h⟩ := ofJson?_eq_some_iff.mp h
  obtain ⟨-, rfl⟩ := Json.fields?_obj.mp hf
  refine ofJson?_eq_some_iff.mpr ⟨_, Json.fields?_mapMember "flags" _ hf, ?_⟩
  have hread : Flags.ofJson? (.obj flags) = some r.flags := by
    have hread := h.flags
    rwa [Json.Fields.withDefault, hflags] at hread
  cases h
  constructor
  case flags =>
    exact Json.Fields.withDefault_mapMember_self hflags (Flags.ofJson?_without missing hread)
  all_goals
    rw [Json.Fields.withDefault_mapMember_of_ne _ (by decide)]
    assumption

/-- **A record is read back.** -/
theorem ofJson?_toJson {r : Record} (h : r.IsFinite) : ofJson? r.toJson = some r := by
  have hproperties : Properties.ofJson? (Properties.toJson r.properties) = some r.properties := by
    refine Properties.ofJson?_toJson fun e he v hv => h e.1 v ?_
    rw [ExtTreeMap.mem_toList_iff_getElem?_eq_some] at he
    rwa [values, ExtTreeMap.getD_eq_getD_getElem?, he, Option.getD_some]
  have hnames : fieldNames.Nodup := by decide
  refine ofJson?_eq_some_iff.mpr ⟨_, Json.fields?_of_nodup hnames, ?_⟩
  constructor
  case date => exact Json.Fields.withDefault_of_lookup rfl (Json.toInt64?_ofInt64 r.date)
  case flags => exact Json.Fields.withDefault_of_lookup rfl (Flags.ofJson?_toJson r.flags)
  case properties => exact Json.Fields.withDefault_of_lookup rfl hproperties
  case width | height | frameRateNum | frameRateDen | sampleRate | audioBitRate | channels =>
    exact Json.Fields.withDefault_of_lookup rfl (Json.toUInt32?_ofUInt32 _)
  all_goals exact Json.Fields.withDefault_of_lookup rfl rfl

end Record

/-! ### Layers of a view -/

theorem SourcePath.ofJson?_toJson (p : SourcePath) : ofJson? p.toJson = some p := by
  rw [ofJson?, toJson, Json.readList_map p.segments fun s _ => s.ofName?_name]
  rfl

theorem Grouping.ofJson?_toJson (g : Grouping) : ofJson? g.toJson = some g := by
  obtain ⟨field, isProperty, order, reverse, allowSingletons⟩ := g
  cases order <;> rfl

theorem Search.ofJson?_toJson (s : Search) : ofJson? s.toJson = some s := by
  obtain ⟨text, condition⟩ := s
  cases condition <;> rfl

theorem SortKey.ofJson?_toJson (key : SortKey) : ofJson? key.toJson = some key := by
  rw [toJson, ofJson?, ofText_text]
  rfl

/-- **The layers of a view are read back.** -/
theorem Layers.ofJson?_toJson {l : Layers} (h : ∀ v ∈ l.path, v.isFinite) :
    ofJson? l.toJson = some l := by
  have hsources : SourcePath.listOfJson? (SourcePath.listToJson l.sources) = some l.sources :=
    Json.readList_map l.sources fun p _ => p.ofJson?_toJson
  have hgrouping : Json.readOption Grouping.ofJson? (.ofOption Grouping.toJson l.grouping) =
      some l.grouping :=
    Json.readOption_ofOption l.grouping (fun _ => by simp [Grouping.toJson])
      Grouping.ofJson?_toJson
  have hsearch : Json.readOption Search.ofJson? (.ofOption Search.toJson l.search) =
      some l.search :=
    Json.readOption_ofOption l.search (fun _ => by simp [Search.toJson]) Search.ofJson?_toJson
  have hsort : Json.readList SortKey.ofJson? (SortKey.listToJson l.sort) = some l.sort :=
    Json.readList_map l.sort fun key _ => key.ofJson?_toJson
  rw [ofJson?]
  refine Json.bind_eq_some_iff.mpr ⟨_, rfl, ?_⟩
  refine Json.bind_eq_some_iff.mpr ⟨_, Json.Fields.withDefault_of_lookup rfl hsources, ?_⟩
  refine Json.bind_eq_some_iff.mpr ⟨_, Json.Fields.withDefault_of_lookup rfl hgrouping, ?_⟩
  refine Json.bind_eq_some_iff.mpr
    ⟨_, Json.Fields.withDefault_of_lookup rfl (Value.readList_listToJson h), ?_⟩
  refine Json.bind_eq_some_iff.mpr ⟨_, Json.Fields.withDefault_of_lookup rfl rfl, ?_⟩
  refine Json.bind_eq_some_iff.mpr ⟨_, Json.Fields.withDefault_of_lookup rfl hsearch, ?_⟩
  exact Json.bind_eq_some_iff.mpr ⟨_, Json.Fields.withDefault_of_lookup rfl hsort, rfl⟩

/-! ### What is written and what is read -/

/-- **What is written in JSON is read back, and what is left out has its default.**  A record and
the layers of a view are read back if no float in them is infinite or not a number.  Of any object
that is read as a record, each set of fields may be missing, and so may flags of a record whose
flags are an object; the others are read as before. -/
theorem records_and_layers_are_read_as_written :
    (∀ r : Record, r.IsFinite → Record.ofJson? r.toJson = some r) ∧
    (∀ members r, Record.ofJson? (.obj members) = some r → ∀ missing,
      Record.ofJson? ((Json.obj members).without missing) = some (r.withDefaults missing)) ∧
    (∀ members r flags, Record.ofJson? (.obj members) = some r →
      members.lookup "flags" = some (.obj flags) → ∀ missing,
      Record.ofJson? ((Json.obj members).mapMember "flags" (Json.without missing)) =
        some { r with flags := r.flags.withDefaults missing }) ∧
    ∀ l : Layers, (∀ v ∈ l.path, v.isFinite) → Layers.ofJson? l.toJson = some l :=
  ⟨fun _ h => Record.ofJson?_toJson h,
    fun _ _ h missing => Record.ofJson?_without missing h,
    fun _ _ _ h hflags missing => Record.ofJson?_mapMember_flags missing h hflags,
    fun _ h => Layers.ofJson?_toJson h⟩

/-- Values of all four kinds, two of which look alike, and a record that loses its title and
whether it was watched. -/
theorem marked_record_is_written_and_read :
    let three : Binary64 := ⟨0x4008000000000000⟩
    let marks : List Value := [.bool true, .int (-3), .int 3, .float three, .str "3"]
    let r : Record := Record.setValues
      { title := "Ran", date := -1, width := 4294967295, flags := { watched := true } } "marks" marks
    let l : Layers := { Layers.default with
      grouping := some ⟨"marks", true, .byCount, true, false⟩, path := [.float three]
      search := some ⟨"war", .exact⟩, sort := [⟨.length, true⟩] }
    r.IsFinite ∧ Record.ofJson? r.toJson = some r ∧
      Record.ofJson? (r.toJson.without (· = "title")) = some { r with title := "" } ∧
      Record.ofJson? (r.toJson.mapMember "flags" (Json.without (· = "watched"))) =
        some { r with flags := {} } ∧
      (∀ v ∈ l.path, v.isFinite) ∧ Layers.ofJson? l.toJson = some l := by
  intro three marks r l
  obtain ⟨hrecord, hmissing, hflags, hlayers⟩ := records_and_layers_are_read_as_written
  have hfinite : r.IsFinite := by
    intro property v hv
    have hvalues : r.values property = if "marks" = property then marks else [] := by
      simp [r, marks, Record.values, Record.setValues, ExtTreeMap.getD_insert,
        ExtTreeMap.getD_empty]
    have hmarks : ∀ v ∈ marks, v.isFinite := by decide
    rw [hvalues] at hv
    split at hv
    · exact hmarks v hv
    · simp at hv
  have hread : Record.ofJson? r.toJson = some r := hrecord r hfinite
  have hpath : ∀ v ∈ l.path, v.isFinite := by decide
  exact ⟨hfinite, hread, hmissing _ r hread (· = "title"),
    hflags _ r _ hread rfl (· = "watched"), hpath, hlayers l hpath⟩

end MediaLibrary
