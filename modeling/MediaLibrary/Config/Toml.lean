/-
The configuration in TOML.

Reading is lenient: where a text, a number or a truth value is wanted, any of the three may
be written if it can be taken for what is wanted.  The names of the document itself may be
paths, which lead to a place further inside.  What is written is in plain form, the
databases last.
-/
import MediaLibrary.Config.Basic
import MediaLibrary.Toml.Path
import MediaLibrary.Toml.Printer
import MediaLibrary.Toml.Reader

namespace MediaLibrary

namespace Toml

/-- A value taken for a text. -/
def toText? : Toml → Option String
  | str s => some s
  | int i => some (toString i.toInt)
  | float x => some x.plainText
  | bool b => some (toString b)
  | moment m => some m.text
  | _ => none

/-- A value taken for a truth value. -/
def toTruth? : Toml → Option Bool
  | bool b => some b
  | int i => some (i ≠ 0)
  | float x => some !x.isZero
  | str s =>
    match Text.lowercase s with
    | "1" | "true" | "on" | "yes" => some true
    | "0" | "false" | "off" | "no" => some false
    | _ => none
  | _ => none

/-- A value taken for a number of things. -/
def toCount? : Toml → Option UInt64
  | int i => if 0 ≤ i then some i.toUInt64 else none
  | float x => some (UInt64.ofNat x.toNatSaturating)
  | bool b => some (if b then 1 else 0)
  | str s =>
    match Text.lowercase s with
    | "true" | "on" | "yes" => some 1
    | "false" | "off" | "no" => some 0
    | _ => Text.unsigned64? s
  | _ => none

/-- A value taken for a list. -/
def toList? {α : Type} (read : Toml → Option α) : Toml → Option (List α)
  | arr items => items.mapM read
  | _ => none

/-- A value taken for one of some names: a text, or a table whose only entry has the
name. -/
def toName? : Toml → Option String
  | str s => some s
  | table [(name, _)] => some name
  | _ => none

/-- What an entry is taken for, if it is there. -/
def entryOr {α : Type} (t : Toml) (name : String) (read : Toml → Option α) (default : α) :
    Option α :=
  match t.get? name with
  | none => some default
  | some v => read v

end Toml

namespace Config

/-- The paths of databases by their names. -/
def databasesOf? : Toml → Option (Std.ExtTreeMap String String)
  | .table entries => entries.foldlM (fun all (name, v) => v.toText?.map (all.insert name)) ∅
  | _ => none

/-- A sort key. -/
def sortKeyOf? (v : Toml) : Option SortKey := do
  (SortKey.ofText (← v.toText?)).toOption

/-- A source path. -/
def sourceOf? (v : Toml) : Option SourcePath :=
  (v.toList? fun segment => segment.toName?.bind SourceSegment.ofName?).map SourcePath.mk

/-- The configuration in a table. -/
def ofTable? (t : Toml) : Option Config := do
  let default : Config := {}
  return {
    databases := ← t.entryOr "databases" databasesOf? default.databases
    defaultDatabase := ← t.entryOr "default_database" (·.toText?.map some) none
    quiet := ← t.entryOr "quiet" Toml.toTruth? default.quiet
    pageSize := ← t.entryOr "page_size" Toml.toCount? default.pageSize
    defaultSort := ← t.entryOr "default_sort" (Toml.toList? sortKeyOf?) default.defaultSort
    defaultSources :=
      ← t.entryOr "default_sources" (Toml.toList? sourceOf?) default.defaultSources }

/-- The configuration that the text of a file writes.  The file may begin with a mark of
its byte order, whether or not the document does. -/
def ofToml (s : String) : Except ConfigError Config :=
  match Toml.read? (String.ofList (Toml.dropMark s.toList)) with
  | none => .error .unreadable
  | some t =>
    match Toml.unfoldNames? t.entries with
    | none => .error .tooLarge
    | some t => (ofTable? t).elim (.error .unreadable) .ok

/-- The text of a configuration.  TOML has no numbers from 2^63 on. -/
def toToml (c : Config) : Except ConfigError String :=
  if Int64.maxValue.toInt < c.pageSize.toNat then .error .unwritablePageSize
  else
    let sort := c.defaultSort.map fun key => Toml.quoted key.text
    let sources := c.defaultSources.map fun path =>
      Toml.arrayText (path.segments.map fun segment => Toml.quoted segment.name)
    .ok <|
      (c.defaultDatabase.elim "" fun name => Toml.entryLine "default_database" (Toml.quoted name)) ++
      Toml.entryLine "quiet" (toString c.quiet) ++
      Toml.entryLine "page_size" (toString c.pageSize.toNat) ++
      Toml.entryLine "default_sort" (Toml.arrayText sort) ++
      Toml.entryLine "default_sources" (Toml.arrayText sources) ++
      "\n[databases]\n" ++
      String.join (c.databases.toList.map fun (name, path) =>
        Toml.entryLine name (Toml.quoted path))

end Config

end MediaLibrary
