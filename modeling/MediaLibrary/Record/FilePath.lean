/-
The file a path names.

A path is a text with `/` between its components.  Empty components and components
that are a single dot say nothing and are passed over; two dots lead upwards, and a
path that ends in them names no file.
-/
import MediaLibrary.Text.Blank

namespace MediaLibrary.FilePath

open Text

/-- The components of a path that say something. -/
def components (path : List Char) : List (List Char) :=
  (splitChars '/' path).filter fun piece => piece ≠ [] ∧ piece ≠ ['.']

/-- The characters before and after the last point, if there is one. -/
def splitLastPoint (name : List Char) : Option (List Char × List Char) :=
  let ending := (name.reverse.takeWhile (· ≠ '.')).reverse
  if ending.length = name.length then none
  else some (name.take (name.length - ending.length - 1), ending)

/-- A file name without its extension.  A point in front is part of the name and
begins no extension. -/
def stem (name : List Char) : List Char :=
  match splitLastPoint name with
  | none => name
  | some ([], _) => name
  | some (before, _) => before

/-- The name of the file, which a path need not have. -/
def fileName? (path : List Char) : Option (List Char) :=
  match (components path).getLast? with
  | none => none
  | some last => if last = ['.', '.'] then none else some last

/-- The name of the file that a path names, empty if it names none. -/
def fileName (path : String) : String :=
  String.ofList ((fileName? path.toList).getD [])

/-- The name of the file without its extension, empty if there is no file. -/
def fileStem (path : String) : String :=
  String.ofList (((fileName? path.toList).map stem).getD [])

/-- The directory in which a path is looked up: what stands before the last `/`. -/
def directory (path : String) : String :=
  String.ofList ((path.toList.reverse.dropWhile (· ≠ '/')).drop 1).reverse

example : fileName "/v//a.b.mp4/." = "a.b.mp4" ∧ fileStem "/v/a.b.mp4" = "a.b" := by
  decide +kernel
example : directory "/v/a/b" = "/v/a" := by decide +kernel
example : fileStem "/v/.hidden" = ".hidden" ∧ fileName "a/.." = "" := by decide +kernel

end MediaLibrary.FilePath
