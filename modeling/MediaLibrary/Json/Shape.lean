/-
The shapes of structures in JSON.

A structure is written as an object with a member per field, and may also be read
from an array with the fields in their order.  Members that are no fields are
passed over.  A field written twice is refused, and so is an array with more items
than there are fields.  An enumerated value is written as its name, and may also be
read from an object whose only member has that name and is null.
-/
import MediaLibrary.Json.Basic

namespace MediaLibrary.Json

/-- The fields of a structure that were written, by name. -/
structure Fields where
  written : List (String × Json)

/-- The written fields of a structure whose field names are given in their order. -/
def fields? (names : List String) : Json → Option Fields
  | obj members =>
    if names.any fun name => 1 < countMember name members then none
    else some ⟨members⟩
  | arr items => if names.length < items.length then none else some ⟨names.zip items⟩
  | _ => none

namespace Fields

/-- A field that has to be written. -/
def require {α : Type} (f : Fields) (name : String) (read : Json → Option α) : Option α :=
  (f.written.lookup name).bind read

/-- A field that has a default. -/
def withDefault {α : Type} (f : Fields) (name : String) (read : Json → Option α) (default : α) :
    Option α :=
  match f.written.lookup name with
  | none => some default
  | some j => read j

end Fields

/-- The list of what is read from each item of an array. -/
def readList {α : Type} (read : Json → Option α) : Json → Option (List α)
  | arr items => items.mapM read
  | _ => none

/-- A value that may be null. -/
def readOption {α : Type} (read : Json → Option α) : Json → Option (Option α)
  | null => some none
  | j => (read j).map some

/-- An enumerated value by its name. -/
def readName {α : Type} (ofName? : String → Option α) : Json → Option α
  | str name => ofName? name
  | obj [(name, null)] => ofName? name
  | _ => none

end MediaLibrary.Json
