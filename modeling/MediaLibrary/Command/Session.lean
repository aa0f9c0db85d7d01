/-
Programs that print.

A command works on a library and prints as it goes.  What it printed before it was refused
stays printed, and what it changed stays changed.
-/
import MediaLibrary.Config.Basic
import MediaLibrary.Json.Printer
import MediaLibrary.Library.Basic
import MediaLibrary.Report.Style

namespace MediaLibrary

/-- Why a command is refused. -/
inductive CommandError where
  | library (error : LibraryError)
  | config (error : ConfigError)
  | unknownName (error : UnknownName)
  | notOfKind (text : String) (kind : Kind)
  | unreadableFile
  | unreadableRecords
  | unreadableStore (fault : OpenFault)
  deriving DecidableEq

/-- What the program says of an error. -/
def CommandError.message : CommandError → String
  | library error => error.message
  | config error => s!"Configuration error: {error.message}"
  | unknownName error => s!"Invalid input: {error.message}"
  | notOfKind text kind => s!"Invalid input: '{text}' is not a valid {kind}"
  | unreadableFile => "I/O error: the file cannot be read"
  | unreadableRecords => "JSON error: the file does not hold records"
  | unreadableStore fault => s!"Database error: Database error: {fault.message}"

/-- How a command is run. -/
structure Context where
  config : Config := {}
  quiet : Bool := false
  json : Bool := false
  paint : Paint := ⟨false⟩

/-- A library, and what was printed about it. -/
structure Session where
  library : Library
  printed : String := ""

/-- A program that works on a library and prints. -/
abbrev CommandM := EStateM CommandError Session

namespace CommandM

/-- An operation of the library. -/
def onLibrary {α : Type} (operation : LibraryM α) : CommandM α := fun s =>
  match operation.run s.library with
  | .ok a library => .ok a { s with library }
  | .error e library => .error (.library e) { s with library }

/-- Goes on with a result, or is refused with its error. -/
def check {ε α : Type} (cause : ε → CommandError) : Except ε α → CommandM α
  | .ok a => pure a
  | .error e => throw (cause e)

/-- Prints a line. -/
def printLine (line : String) : CommandM Unit :=
  modify fun s => { s with printed := s.printed ++ line ++ "\n" }

/-- Prints lines. -/
def printLines (lines : List String) : CommandM Unit :=
  lines.forM printLine

/-- Prints a value in JSON. -/
def printJson (j : Json) : CommandM Unit :=
  printLine j.indented

/-- Prints a line for readers, unless the command is quiet or prints JSON. -/
def inform (context : Context) (line : String) : CommandM Unit :=
  unless context.quiet || context.json do
    printLine line

end CommandM

end MediaLibrary
