/-
Running commands.

`Invocation.run` runs the command of one call on the library at hand.  The file that a
command imports is read by the caller, since nothing here reads files.
-/
import MediaLibrary.Command.View
import MediaLibrary.Json.Move
import MediaLibrary.Json.Reader
import MediaLibrary.Library.Definitions
import MediaLibrary.Library.Moves
import MediaLibrary.Library.Records

namespace MediaLibrary

namespace CommandM

/-- Imports the records that a file holds, whose text is given if it could be read. -/
def importFile (context : Context) (file : String) (content : Option String) :
    CommandM Unit := do
  match content with
  | none => throw .unreadableFile
  | some text =>
    match (Json.read? text).bind (Json.readList Record.ofJson?) with
    | none => throw .unreadableRecords
    | some records =>
      let ids ← onLibrary (LibraryM.importRecords records)
      if context.json then printJson (.arr (ids.map Json.ofUInt64))
      else inform context s!"Imported {ids.length} record(s) from {file}"

/-- The value of a kind that a text writes. -/
def valueOf (kind : Kind) (text : String) : CommandM Value :=
  match kind.parse? text with
  | some value => return value
  | none => throw (.notOfKind text kind)

/-- Tells about a property and the values that records hold for it. -/
def describe (context : Context) (name : String) : CommandM Unit := do
  let l := (← get).library
  let description ← check (.library ∘ .schema) (l.catalog.describe name)
  let counts := l.store.valueCounts name
  if context.json then
    let values := counts.map fun (value, count) =>
      Json.obj [("value", value.toJson), ("count", .ofNat count)]
    printJson (Json.obj [("property", description.toJson), ("values", .arr values)]).sorted
  else
    printLine (context.paint.propertyLine context.quiet description)
    printLines (counts.map fun (value, count) => s!"    {value} ({count} record(s))")

/-- Tells about all properties. -/
def listProperties (context : Context) : CommandM Unit := do
  let all ← onLibrary LibraryM.describeProperties
  if context.json then printJson (.arr (all.map Description.toJson))
  else
    if all.isEmpty then inform context "No properties defined."
    printLines (all.map (context.paint.propertyLine context.quiet))

/-- Runs a command on properties. -/
def property (context : Context) : PropertyCommand → CommandM Unit
  | .define name kind multiple enumeration default => do
    let kind ← check .unknownName (Kind.ofText kind)
    let members ← if enumeration.isEmpty then pure none
      else some <$> enumeration.mapM (valueOf kind)
    let default ← default.mapM (valueOf kind)
    onLibrary (LibraryM.defineProperty name kind multiple members default)
    inform context s!"Defined property '{name}'"
  | .rename old new => do
    onLibrary (LibraryM.renameProperty old new)
    inform context s!"Renamed property '{old}' to '{new}'"
  | .remove name => do
    onLibrary (LibraryM.removeProperty name)
    inform context s!"Removed property '{name}'"
  | .multiple name multiple => do
    onLibrary (LibraryM.setMultiplicity name multiple)
    let label := if multiple then "multi-valued" else "single-valued"
    inform context s!"Property '{name}' is now {label}"
  | .list => listProperties context
  | .describe name => describe context name

/-- Sets the values of a property in some records. -/
def tag (context : Context) (property : String) (texts : List String) (ids : List RecordId) :
    CommandM Unit := do
  let values ← check (.library ∘ .schema) ((← get).library.catalog.parse property texts)
  let count ← onLibrary (LibraryM.setTag ids property values)
  if context.json then
    printJson (.obj [("property", .str property), ("updated", .ofNat count)])
  else inform context s!"Updated '{property}' on {count} record(s)"

/-- Tells about moved files. -/
def listMoves (context : Context) : CommandM Unit := do
  let index ← onLibrary LibraryM.moveIndex
  if context.json then printJson index.toJson
  else if index.isEmpty then inform context "No moved files detected."
  else printLines (index.toList.flatMap fun (id, label, destinations) =>
    context.paint.moveLines id label destinations)

/-- Resolves a move. -/
def resolveMove (context : Context) (missing found : RecordId) : CommandM Unit := do
  onLibrary (LibraryM.applyMove missing found)
  inform context s!"Record {missing.toNat} now points at the file of record {found.toNat}"

/-- Runs a command, with the text of the file that it reads. -/
def perform (context : Context) (content : Option String) : Command → CommandM Unit
  | .view layers page pageSize => view context layers page pageSize
  | .importFile file => importFile context file content
  | .property command => property context command
  | .tag name values ids => tag context name values ids
  | .listMoves => listMoves context
  | .resolveMove missing found => resolveMove context missing found
  | .column field layers => column context field layers

end CommandM

/-- What a call of the program leaves: what it printed, why it was refused if it was, and
the library. -/
structure Outcome where
  printed : String
  error : Option CommandError
  library : Library

namespace Invocation

/-- How the command of a call is run. -/
def context (i : Invocation) (config : Config) (paint : Paint) : Context :=
  { config, paint, quiet := i.quiet || config.quiet, json := i.json }

/-- Runs the command of a call. -/
def run (i : Invocation) (config : Config) (paint : Paint) (content : Option String)
    (library : Library) : Outcome :=
  match (CommandM.perform (i.context config paint) content i.command).run ⟨library, ""⟩ with
  | .ok _ s => ⟨s.printed, none, s.library⟩
  | .error e s => ⟨s.printed, some e, s.library⟩

end Invocation

end MediaLibrary
