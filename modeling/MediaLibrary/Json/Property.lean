/-
Properties in JSON.

A value is written as what it is in JSON.  A whole number that does not fit in 64
bits with a sign is read as a float, so kinds survive being written and read, with
the exception of floats that are no finite numbers, for which JSON has no form.
-/
import MediaLibrary.Json.Shape
import MediaLibrary.Property.Definition

namespace MediaLibrary

namespace Value

/-- A value as what it is in JSON. -/
def toJson : Value → Json
  | bool b => .bool b
  | int i => .ofInt64 i
  | float x => .ofBinary64 x
  | str s => .str s

/-- A number is whole if it fits, and else a float. -/
def ofJson? : Json → Option Value
  | .bool b => some (bool b)
  | .str s => some (str s)
  | j => match j.toInt64? with
    | some i => some (int i)
    | none => j.toBinary64?.map float

/-- The values of a property. -/
def listToJson (values : List Value) : Json := .arr (values.map toJson)

end Value

namespace Kind

/-- A kind by its name. -/
def toJson (k : Kind) : Json := .str k.name

/-- The kind with exactly a given name. -/
def ofName? (name : String) : Option Kind :=
  [bool, int, float, str].find? (·.name = name)

/-- The kind with a written name. -/
def ofJson? : Json → Option Kind := Json.readName ofName?

end Kind

namespace Definition

/-- A definition with all of its fields. -/
def toJson (d : Definition) : Json :=
  .obj [("name", .str d.name), ("kind", d.kind.toJson), ("multiple", .bool d.multiple),
    ("enumeration", .ofOption Value.listToJson d.enumeration), ("default", d.default.toJson)]

/-- A definition as written, without the checks of a new one. -/
def ofJson? (j : Json) : Option Definition := do
  let f ← j.fields? ["name", "kind", "multiple", "enumeration", "default"]
  return {
    name := ← f.require "name" Json.toString?
    kind := ← f.require "kind" Kind.ofJson?
    multiple := ← f.require "multiple" Json.toBool?
    enumeration :=
      ← f.withDefault "enumeration" (Json.readOption (Json.readList Value.ofJson?)) none
    default := ← f.require "default" Value.ofJson? }

end Definition

namespace Description

/-- A description with all of its fields. -/
def toJson (d : Description) : Json :=
  .obj [("name", .str d.name), ("kind", d.kind.toJson),
    ("enumeration", .ofOption Value.listToJson d.enumeration),
    ("defaultValue", d.defaultValue.toJson), ("multiple", .bool d.multiple)]

/-- A description, of which only the enumeration may be left out. -/
def ofJson? (j : Json) : Option Description := do
  let f ← j.fields? ["name", "kind", "enumeration", "defaultValue", "multiple"]
  return {
    name := ← f.require "name" Json.toString?
    kind := ← f.require "kind" Kind.ofJson?
    enumeration :=
      ← f.withDefault "enumeration" (Json.readOption (Json.readList Value.ofJson?)) none
    defaultValue := ← f.require "defaultValue" Value.ofJson?
    multiple := ← f.require "multiple" Json.toBool? }

end Description

end MediaLibrary
