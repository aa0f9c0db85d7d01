/-
Files in memory.

Directories are known by where they are, and texts lie in them.  A path is followed name by
name from directory to directory: an empty name and a dot stay, two dots lead upwards.  A
path through what is no directory leads nowhere, even if it comes back at once.
-/
import MediaLibrary.Store.Error
import MediaLibrary.Text.Blank

namespace MediaLibrary

/-- Where a file or a directory is: the names that lead there, the last first. -/
abbrev Location := List String

namespace Location

/-- Where a path starts: at the root, or in the directory at hand. -/
def start (path : String) : Location :=
  if path.toList.head? = some '/' then ["/"] else []

/-- Where a name leads. -/
def next (location : Location) (name : String) : Location :=
  if name = "" ∨ name = "." then location
  else if name = ".." then location.drop 1
  else name :: location

/-- The names on a path. -/
def names (path : String) : List String :=
  (Text.splitChars '/' path.toList).map String.ofList

/-- Where a path leads if there are all directories on the way. -/
def ofPath (path : String) : Location :=
  (names path).foldl next (start path)

end Location

/-- The texts of files, and directories that hold no texts perhaps.  The null device is
always there, and empty. -/
structure Files where
  directories : List Location := []
  texts : List (Location × String) := [(["null", "dev", "/"], "")]
  deriving DecidableEq

namespace Files

/-- The text at a location. -/
def text? (files : Files) (location : Location) : Option String :=
  files.texts.lookup location

/-- Whether there is a directory at a location: one that was made, or one above a text. -/
def isDirectory (files : Files) (location : Location) : Bool :=
  location ∈ [[], ["/"]] || location ∈ files.directories ||
    files.texts.any fun (text, _) => location.isSuffixOf (text.drop 1)

/-- Where a path leads. -/
def locate? (files : Files) (path : String) : Option Location :=
  (Location.names path).foldlM (fun location name =>
    if files.isDirectory location then some (location.next name) else none) (Location.start path)

/-- The text of the file that a path leads to. -/
def read? (files : Files) (path : String) : Option String :=
  (files.locate? path).bind files.text?

/-- The files with a directory at a location in a directory. -/
def addDirectory (files : Files) (location : Location) : Except OpenFault Files :=
  if location.head?.any (255 < ·.utf8ByteSize) then .error .longName
  else if (files.text? location).isSome then .error .notDirectory
  else .ok { files with directories := files.directories.insert location }

/-- The directory that a path leads to, and the files with all directories on the way. -/
def makeDirectory (files : Files) (path : String) : Except OpenFault (Location × Files) :=
  if path.toList.contains '\x00' then .error .zeroInName
  else
    (Location.names path).foldlM (fun (location, files) name => do
      let location := Location.next location name
      return (location, ← files.addDirectory location)) (Location.start path, files)

/-- The files with a text at the end of a path. -/
def write (files : Files) (path text : String) : Files :=
  let location := Location.ofPath path
  { files with texts := (location, text) :: files.texts.filter (·.1 ≠ location) }

/-- The files with some texts, each at the end of its path. -/
def writeAll (files : Files) (texts : List (String × String)) : Files :=
  texts.foldl (fun files (path, text) => files.write path text) files

example : (writeAll {} [("a/b/c", "x")]).read? "a/b/.//../b/c" = some "x" := by decide +kernel
example : (writeAll {} [("a/b", "x")]).read? "a/c/../b" = none ∧
    (writeAll {} [("a/b", "x")]).read? "a/b/" = none := by decide +kernel

end Files

end MediaLibrary
