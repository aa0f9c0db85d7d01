/-
The grammar of a command line.

A command line names a command and gives it options and positional arguments.  An
option has a long name and perhaps a short one; it is a switch, or takes one value, or
may be given several times with one value each.  Commands can have subcommands, which
bring their own options.
-/
import MediaLibrary.Text.Numeral

namespace MediaLibrary

/-- Why a command line does not give a command. -/
inductive ArgumentError where
  /-- an option or argument that the command does not have -/
  | unknownArgument
  /-- a name that is no subcommand -/
  | unknownCommand
  /-- a subcommand is needed -/
  | missingCommand
  /-- an option or argument is needed -/
  | missingArgument
  /-- options that exclude each other, or one given twice -/
  | conflict
  /-- a value is missing or none of the possible ones -/
  | badValue
  /-- a value that is not the number it should be -/
  | badNumber
  /-- a switch with a value -/
  | unneededValue
  /-- help is asked for -/
  | help
  /-- nothing is asked for, and help is given -/
  | helpInstead
  /-- the version is asked for -/
  | version
  deriving DecidableEq

/-- What is wrong with the arguments, in words. -/
def ArgumentError.message : ArgumentError → String
  | unknownArgument => "an argument is not expected"
  | unknownCommand => "a name is no command"
  | missingCommand => "a command is needed"
  | missingArgument => "a required argument is missing"
  | conflict => "arguments exclude each other"
  | badValue => "a value is missing or not possible"
  | badNumber => "a value is no number"
  | unneededValue => "a switch takes no value"
  | help | helpInstead => "help is asked for"
  | version => "the version is asked for"

/-- The form of a value. -/
inductive ValueForm where
  | text
  /-- a text that is not empty -/
  | path
  | number
  | truth
  deriving DecidableEq

/-- The value of an option or argument. -/
inductive ArgumentValue where
  | text (s : String)
  | number (n : UInt64)
  | truth (b : Bool)
  deriving DecidableEq

/-- The value that a text writes. -/
def ValueForm.read (form : ValueForm) (s : String) : Except ArgumentError ArgumentValue :=
  match form with
  | text => .ok (.text s)
  | path => if s.isEmpty then .error .badValue else .ok (.text s)
  | number =>
    match Text.unsigned64? s with
    | some n => .ok (.number n)
    | none => .error .badNumber
  | truth =>
    match s with
    | "true" => .ok (.truth true)
    | "false" => .ok (.truth false)
    | _ => .error .badValue

/-- What an option or argument does. -/
inductive Role where
  | switch
  | single (form : ValueForm)
  | repeated (form : ValueForm)
  | help
  | version
  deriving DecidableEq

/-- Whether a value follows. -/
def Role.takesValue : Role → Bool
  | single _ => true
  | repeated _ => true
  | _ => false

/-- An option. -/
structure OptionSpec where
  long : String
  short : Option Char := none
  role : Role
  /-- whether a value may begin with a hyphen -/
  hyphens : Bool := false
  deriving DecidableEq

/-- A positional argument. -/
structure Positional where
  name : String
  role : Role
  deriving DecidableEq

/-- A command. -/
structure CommandSpec where
  name : String
  aliases : List String := []
  options : List OptionSpec := []
  positionals : List Positional := []
  /-- options and arguments that have to be given -/
  required : List String := []
  /-- options that exclude each other -/
  conflicts : List (String × String) := []
  /-- options of which the first needs the second -/
  companions : List (String × String) := []
  subcommands : List CommandSpec := []

namespace CommandSpec

/-- The option with a long name. -/
def long? (spec : CommandSpec) (name : String) : Option OptionSpec :=
  spec.options.find? (·.long = name)

/-- The option with a short name. -/
def short? (spec : CommandSpec) (name : Char) : Option OptionSpec :=
  spec.options.find? (·.short = some name)

/-- The subcommand with a name or alias. -/
def subcommand? (spec : CommandSpec) (name : String) : Option CommandSpec :=
  spec.subcommands.find? fun sub => sub.name = name || name ∈ sub.aliases

/-- Whether a text calls for help on a subcommand. -/
def isHelpCommand (spec : CommandSpec) (text : String) : Bool :=
  !spec.subcommands.isEmpty && text = "help"

/-- The outcome of asking for help on the subcommand that some names lead to.  Help itself
is a subcommand, with none of its own. -/
def helpOn (spec : CommandSpec) : List String → ArgumentError
  | [] => .help
  | name :: rest =>
    match spec.subcommand? name with
    | some sub => sub.helpOn rest
    | none => if spec.isHelpCommand name && rest.isEmpty then .help else .unknownCommand

/-- A short account of a command: its subcommands and options. -/
def usage (spec : CommandSpec) : String :=
  let commands := spec.subcommands.map fun sub => s!"  {sub.name}\n"
  let options := spec.options.map fun option => s!"  --{option.long}\n"
  s!"Usage: {spec.name} [OPTIONS] <COMMAND>\n\nCommands:\n" ++ String.join commands ++
    "\nOptions:\n" ++ String.join options

end CommandSpec

end MediaLibrary
