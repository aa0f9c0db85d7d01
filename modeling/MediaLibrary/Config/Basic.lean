/-
The configuration.

The configuration names databases by the paths of their stores, and says which of them is
meant when none is named, how much is reported, and how views look before anything has
been said about them.
-/
import MediaLibrary.View.Layers
import MediaLibrary.View.Page
import Std.Data.ExtTreeMap

namespace MediaLibrary

open Std

/-- Why the configuration does not serve. -/
inductive ConfigError where
  | unreadable
  | tooLarge
  | unwritablePageSize
  | noSuchDatabase (name : String)
  | noDefault
  | databaseNotFound (name : String)
  deriving DecidableEq

/-- What is wrong with the configuration, in words. -/
def ConfigError.message : ConfigError → String
  | unreadable => "the configuration cannot be read"
  | tooLarge => "there is no room for the configuration"
  | unwritablePageSize => "Failed to serialize config: out-of-range value for u64 type"
  | noSuchDatabase name => s!"Database '{name}' does not exist in configuration"
  | noDefault => "No default database configured"
  | databaseNotFound name => s!"Database '{name}' not found in configuration"

/-- The configuration. -/
structure Config where
  databases : ExtTreeMap String String := ∅
  defaultDatabase : Option String := none
  quiet : Bool := false
  pageSize : UInt64 := 20
  defaultSort : List SortKey := Layers.defaultSort
  defaultSources : List SourcePath := Layers.defaultSources
  deriving DecidableEq

namespace Config

/-- The configuration before there is one: a single database in a directory for data. -/
def initial (dataDirectory : String) : Config :=
  { databases := ExtTreeMap.ofList [("default", dataDirectory ++ "/mediacat/default")] compare
    defaultDatabase := some "default" }

/-- The path of a database. -/
def path? (c : Config) (name : String) : Option String := c.databases[name]?

/-- Names a database. -/
def addDatabase (c : Config) (name path : String) : Config :=
  { c with databases := c.databases.insert name path }

/-- Makes a database the one that is meant when none is named. -/
def setDefaultDatabase (c : Config) (name : String) : Except ConfigError Config :=
  if c.databases.contains name then .ok { c with defaultDatabase := some name }
  else .error (.noSuchDatabase name)

/-- The path of a database, or of the one that is meant when none is named. -/
def resolve (c : Config) (name : Option String) : Except ConfigError String :=
  match name.or c.defaultDatabase with
  | none => .error .noDefault
  | some name =>
    match c.path? name with
    | some path => .ok path
    | none => .error (.databaseNotFound name)

/-- The layers of a view about which nothing has been said. -/
def layers (c : Config) : Layers :=
  { Layers.default with sources := c.defaultSources, sort := c.defaultSort }

/-- The request for a page. -/
def pageRequest (c : Config) (page : UInt64) : PageRequest :=
  { pageSize := c.pageSize, pageNumber := page }

end Config

end MediaLibrary
