/-
The program.

Here a call meets real files.  The configuration is `mediacat/config.toml` in the user's
directory for configuration; a store is one file that holds its image.
-/
import MediaLibrary.Command.Call
import MediaLibrary.Store.Image

namespace MediaLibrary

/-- What a file holds, if there is one. -/
def existing? {α : Type} (read : IO α) : IO (Option α) := do
  try return some (← read)
  catch
    | .noFileOrDirectory .. => return none
    | e => throw e

/-- What a file holds, if it can be read. -/
def readable? {α : Type} (read : IO α) : IO (Option α) := do
  try return some (← read) catch _ => return none

/-- A directory of the user, which an environment variable may name. -/
def userDirectory (name fallback : String) : IO String := do
  let home := (← IO.getEnv "HOME").getD ""
  let default := home ++ "/" ++ fallback
  match ← IO.getEnv name with
  | some path => return if path.startsWith "/" then path else default
  | none => return default

/-- Writes a file, whose directory may not be there yet. -/
def write (path : String) (bytes : ByteArray) : IO Unit := do
  IO.FS.createDirAll (FilePath.directory path)
  IO.FS.writeBinFile path bytes

/-- The store whose image a file holds. -/
def readStore (path : String) : IO (Except OpenFault Store) := do
  match ← existing? (IO.FS.readBinFile path) with
  | none => return .ok .empty
  | some bytes => return (Store.ofBytes bytes.toList).mapError fun _ => .damaged

/-- The files of the user. -/
def userPlace : IO (Place IO) := do
  let config := (← userDirectory "XDG_CONFIG_HOME" ".config") ++ "/mediacat/config.toml"
  let plain := (← IO.getEnv "NO_COLOR").isSome || !(← (← IO.getStdout).isTty)
  return {
    configuration := existing? (IO.FS.readFile config)
    configure := fun text => write config text.toUTF8
    dataDirectory := ← userDirectory "XDG_DATA_HOME" ".local/share"
    store := readStore
    keep := fun path store => write path ⟨store.toBytes.toArray⟩
    file := fun path => readable? (IO.FS.readFile path)
    paint := ⟨!plain⟩ }

/-- A call with the files of the user. -/
def userCall (arguments : List String) : IO Exit := do
  let place ← userPlace
  try place.call arguments
  catch e => return { code := 1, errors := Exit.errorLine place.paint s!"I/O error: {e}" }

end MediaLibrary

/-- Runs the program and leaves with its exit code. -/
def main (arguments : List String) : IO UInt32 := do
  let exit ← MediaLibrary.userCall arguments
  IO.print exit.output
  IO.eprint exit.errors
  return exit.code
