/-
The commands of the program.

A command is what one call of the program does: show a page of a view, import records,
manage properties, set the values of a property, list or resolve moved files, or print one
column of a view.  Texts with a syntax of their own, such as sort keys, are kept as they
were written; the command reads them when it is run.
-/
import MediaLibrary.Record.Basic

namespace MediaLibrary

/-- The layers of a view as they were written. -/
structure ViewArguments where
  sources : List String := []
  groupBy : Option String := none
  groupTag : Option String := none
  groupSort : String := "value"
  reverse : Bool := false
  singletons : Bool := false
  classifier : List String := []
  group : UInt64 := 0
  search : Option String := none
  searchMode : String := "and"
  sort : List String := []
  included : List RecordId := []
  excluded : List RecordId := []
  deriving DecidableEq

/-- What can be done to properties. -/
inductive PropertyCommand where
  | define (name kind : String) (multiple : Bool) (enumeration : List String)
      (default : Option String)
  | rename (old new : String)
  | remove (name : String)
  | multiple (name : String) (multiple : Bool)
  | list
  | describe (name : String)
  deriving DecidableEq

/-- A command. -/
inductive Command where
  | view (layers : ViewArguments) (page : UInt64) (pageSize : Option UInt64)
  | importFile (file : String)
  | property (command : PropertyCommand)
  | tag (property : String) (values : List String) (ids : List RecordId)
  | listMoves
  | resolveMove (missing found : RecordId)
  | column (field : String) (layers : ViewArguments)
  deriving DecidableEq

/-- A call of the program: a command, and how and where it is run. -/
structure Invocation where
  database : Option String := none
  quiet : Bool := false
  json : Bool := false
  command : Command
  deriving DecidableEq

/-- The file that a command reads. -/
def Command.file? : Command → Option String
  | importFile file => some file
  | _ => none

end MediaLibrary
