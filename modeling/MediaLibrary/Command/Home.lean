/-
A home in memory.

What a call of the program finds outside itself can be held as a value: the files, of which
the configuration is one, and the images of stores.  A store is kept in a directory of its
own.  Calls among these values change them as calls among real files change the files, so
that a run of several calls can be followed from the first to the last.
-/
import MediaLibrary.Command.Call
import MediaLibrary.Command.Files
import MediaLibrary.Store.Image

namespace MediaLibrary

/-- The files and stores of a user. -/
structure Home where
  path : String
  files : Files
  stores : List (Location × List UInt8) := []
  deriving DecidableEq

namespace Home

/-- The path of the configuration in a home. -/
def configurationPath (path : String) : String :=
  path ++ "/config/mediacat/config.toml"

/-- A home with some texts in it, and perhaps a configuration. -/
def new (path : String) (texts : List (String × String)) (configuration : Option String) : Home :=
  let files : Files := { directories := [Location.ofPath path] }
  let configuration := configuration.toList.map fun text => (configurationPath path, text)
  { path, files := files.writeAll (texts ++ configuration) }

/-- The text of the configuration. -/
def configuration (home : Home) : Option String :=
  home.files.read? (configurationPath home.path)

/-- The store in the directory that a path leads to. -/
def store (home : Home) (path : String) : Except OpenFault (Store × Home) := do
  let (location, files) ← home.files.makeDirectory path
  let store ← match home.stores.lookup location with
    | none => .ok Store.empty
    | some image => (Store.ofBytes image).mapError fun _ => .damaged
  return (store, { home with files })

/-- The home with a store in the directory that a path leads to. -/
def keep (home : Home) (path : String) (store : Store) : Home :=
  let location := Location.ofPath path
  { home with stores := (location, store.toBytes) :: home.stores.filter (·.1 ≠ location) }

/-- The home as the place of calls. -/
def place (path : String) : Place (StateM Home) where
  configuration := return (← get).configuration
  configure text := modify fun home =>
    { home with files := home.files.write (configurationPath home.path) text }
  dataDirectory := path ++ "/data"
  store path := modifyGet fun home =>
    match home.store path with
    | .error fault => (.error fault, home)
    | .ok (store, home) => (.ok store, home)
  keep path store := modify fun home => home.keep path store
  file path := return (← get).files.read? path

/-- A call with some arguments in a home. -/
def call (home : Home) (arguments : List String) : Exit × Home :=
  ((place home.path).call arguments).run home

/-- Several calls, one after another. -/
def calls : Home → List (List String) → List Exit × Home
  | home, [] => ([], home)
  | home, arguments :: rest =>
    let (exit, home) := home.call arguments
    let (exits, home) := home.calls rest
    (exit :: exits, home)

end Home

end MediaLibrary
