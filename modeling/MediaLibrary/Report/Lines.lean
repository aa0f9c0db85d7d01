/-
The lines of a report.

Records, groups, properties and moved files each have a line for readers.  A quiet
report names records by their paths and properties by their names alone.
-/
import MediaLibrary.Grouping.Basic
import MediaLibrary.Library.Views
import MediaLibrary.Moves.Index
import MediaLibrary.Report.Style

namespace MediaLibrary

/-- A text with blanks in front of it up to a width. -/
def alignRight (width : Nat) (text : String) : String :=
  String.ofList (List.replicate (width - text.length) ' ') ++ text

namespace Paint

variable (p : Paint)

/-- A path, in green if the file was found and in red if it is missing. -/
def path (path : String) (found : Bool) : String :=
  p.styled [if found then .green else .red] path

/-- The line of a record. -/
def recordLine (quiet : Bool) (r : Record) : String :=
  if quiet then r.path
  else
    let tags := r.properties.toList.map fun (name, values) =>
      name ++ "=" ++ "|".intercalate (values.map Value.text)
    let id := p.styled [.dimmed] (alignRight 6 (toString r.id.toNat))
    s!"  {id} {p.path r.path r.flags.found} " ++
      s!"({FileSize.text r.size}, {durationText r.length})" ++
      if tags.isEmpty then "" else " [" ++ ", ".intercalate tags ++ "]"

/-- The line of a group, with a mark if it is the chosen one. -/
def groupLine (index : Nat) (g : GroupSummary) (chosen : Bool) : String :=
  let label :=
    if g.classified then p.styled [.italic] "(all classified)"
    else match g.value with
      | some value => value.display
      | none => p.styled [.italic] "(none)"
  let mark := if chosen then p.styled [.bold] ">" else " "
  s!"{mark} {alignRight 3 (toString index)} {label} " ++
    s!"({g.count} record(s), {durationText g.length})"

/-- The line of a property. -/
def propertyLine (quiet : Bool) (d : Description) : String :=
  if quiet then d.name
  else
    let multiplicity := if d.multiple then "multiple" else "single"
    let members := d.enumeration.elim "" fun values =>
      " one of: " ++ ", ".intercalate (values.map Value.text)
    s!"  {p.styled [.bold] d.name} ({d.kind}, {multiplicity}, default {d.defaultValue})" ++ members

/-- The lines of a missing record and of the records that it may have become. -/
def moveLines (id : RecordId) (label : Option String) (destinations : List MoveDestination) :
    List String :=
  let missing := p.styled [.red] (toString id.toNat)
  (s!"  {missing} [" ++ label.getD "" ++ "]") ::
    destinations.map fun d => s!"    -> {d.recordId.toNat} {p.path d.path true}"

end Paint

/-- The line with the numbers of a page and its selection. -/
def Page.summary (page : Page) : String :=
  s!"Page {page.pageNumber + 1}/{page.pageCount}: " ++
    s!"{page.selectionCount} of {page.viewCount} record(s) selected, " ++
    s!"{FileSize.text page.selectionSize}, {durationText page.selectionDuration}"

end MediaLibrary
