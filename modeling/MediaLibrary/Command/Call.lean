/-
Calls of the program.

A call reads its arguments and the configuration, takes the store of the database that is
meant, runs the command on it, and puts the store back.  What lies outside the program,
the configuration and the other files, is reached through a `Place`, so that a call can
be followed in any monad: among real files as well as among texts in memory.

A command that is refused has perhaps printed something and changed something already.
Both stay: the store is put back whether or not the command was refused.
-/
import MediaLibrary.Command.Grammar
import MediaLibrary.Command.Run
import MediaLibrary.Config.Toml

namespace MediaLibrary

/-- What a call finds outside the program. -/
structure Place (m : Type → Type) where
  /-- the text of the configuration, if there is one -/
  configuration : m (Option String)
  /-- puts a text in the place of the configuration -/
  configure : String → m Unit
  /-- the directory in which databases are kept at first -/
  dataDirectory : String
  /-- the store at a path, an empty one if there is none yet, if it can be opened -/
  store : String → m (Except OpenFault Store)
  /-- puts a store at a path -/
  keep : String → Store → m Unit
  /-- the text of a file, if it can be read -/
  file : String → m (Option String)
  /-- how reports are written -/
  paint : Paint := ⟨false⟩

/-- What is seen of a call. -/
structure Exit where
  code : UInt32 := 0
  output : String := ""
  errors : String := ""
  deriving DecidableEq

namespace Exit

/-- The line about an error. -/
def errorLine (paint : Paint) (message : String) : String :=
  paint.styled [.bold, .red] "Error:" ++ s!" {message}\n"

/-- The exit of a command. -/
def ofOutcome (paint : Paint) (o : Outcome) : Exit :=
  match o.error with
  | none => { output := o.printed }
  | some e => { code := 1, output := o.printed, errors := errorLine paint e.message }

/-- The exit of a command that could not begin. -/
def ofError (paint : Paint) (e : CommandError) : Exit :=
  { code := 1, errors := errorLine paint e.message }

/-- The exit of a call whose arguments name no command.  Who asks for help or for the
version gets it; who needs help gets it for an error. -/
def ofArgumentError (e : ArgumentError) : Exit :=
  match e with
  | .help => { output := commandLine.usage }
  | .version => { output := commandLine.name ++ "\n" }
  | .helpInstead => { code := 2, errors := commandLine.usage }
  | e => { code := 2, errors := s!"error: {e.message}\n" }

end Exit

variable {m : Type → Type} [Monad m]

namespace Place

/-- The configuration.  Where there is none yet, the initial one is put there. -/
def config (place : Place m) : ExceptT CommandError m Config := do
  match ← place.configuration with
  | some text => MonadExcept.ofExcept ((Config.ofToml text).mapError .config)
  | none =>
    let config := Config.initial place.dataDirectory
    place.configure (← MonadExcept.ofExcept (config.toToml.mapError .config))
    return config

/-- Runs the command of a call on the library that is meant. -/
def run (place : Place m) (i : Invocation) : ExceptT CommandError m Outcome := do
  let config ← place.config
  let path ← MonadExcept.ofExcept ((config.resolve i.database).mapError .config)
  let store ← MonadExcept.ofExcept ((← place.store path).mapError .unreadableStore)
  let content ←
    match i.command.file? with
    | none => pure none
    | some file => place.file file
  let outcome := i.run config place.paint content (Library.ofStore store config.layers)
  place.keep path outcome.library.store
  return outcome

/-- A call with some arguments. -/
def call (place : Place m) (arguments : List String) : m Exit := do
  match Invocation.ofArguments arguments with
  | .error e => return .ofArgumentError e
  | .ok i =>
    match ← (place.run i).run with
    | .error e => return .ofError place.paint e
    | .ok outcome => return .ofOutcome place.paint outcome

end Place

end MediaLibrary
