/-
Property definitions.

A definition names a property and says which values records may hold for it: their
kind, whether there may be several, and, if the values are enumerated, which ones.
Every value passes `validate` before it reaches a record.  That is also where whole
numbers become floats for a property of floats, and where repeated values are
dropped.

A definition is only ever made by `Definition.new`, which checks that its
enumeration has at least two members, that the default is one of them, and puts it
first.
-/
import MediaLibrary.Property.Value

namespace MediaLibrary

/-- Why a value is refused for a property. -/
inductive ValueFault where
  | wrongKind (expected got : Kind)
  | unreadable (expected : Kind)
  | notEnumerated
  | severalValues
  | severalHeld
  deriving DecidableEq

/-- Why a definition is refused. -/
inductive DefinitionFault where
  | blankName
  | blankNewName
  | badDefault (value : Value) (fault : ValueFault)
  | badMember (value : Value) (fault : ValueFault)
  | tooFewMembers
  | defaultNotMember (value : Value)
  deriving DecidableEq

/-- Why an operation on definitions or values is refused.  A refused operation has
changed nothing. -/
inductive SchemaError where
  | invalidDefinition (name : String) (fault : DefinitionFault)
  | duplicate (name : String)
  | unknown (name : String)
  | invalidValue (name : String) (value : String) (fault : ValueFault)
  deriving DecidableEq

/-- What is wrong with a value, in words. -/
def ValueFault.message : ValueFault → String
  | wrongKind expected got => s!"expected {expected}, got {got}"
  | unreadable expected => s!"expected {expected}"
  | notEnumerated => "not in enumeration"
  | severalValues => "property accepts a single value"
  | severalHeld => "some records hold several values"

/-- The sentence about a refused value. -/
def invalidValueMessage (name value : String) (fault : ValueFault) : String :=
  s!"Invalid value '{value}' for property '{name}': {fault.message}"

/-- The reason for a refused definition of the property `name`. -/
def DefinitionFault.message (name : String) : DefinitionFault → String
  | blankName => "name cannot be empty"
  | blankNewName => "new name cannot be empty"
  | badDefault value fault =>
    s!"default value rejected ({invalidValueMessage name value.text fault})"
  | badMember value fault =>
    s!"enumeration rejected ({invalidValueMessage name value.text fault})"
  | tooFewMembers => "enumeration needs at least 2 distinct values"
  | defaultNotMember value => s!"default '{value}' is not in the enumeration"

/-- Why properties are not as asked for, in words. -/
def SchemaError.message : SchemaError → String
  | invalidDefinition name fault =>
    s!"Invalid definition for property '{name}': {fault.message name}"
  | duplicate name => s!"Property '{name}' already exists"
  | unknown name => s!"Property '{name}' not found in catalog"
  | invalidValue name value fault => invalidValueMessage name value fault

/-- The definition of a property.  An enumeration begins with the default. -/
structure Definition where
  name : String
  kind : Kind
  multiple : Bool
  enumeration : Option (List Value)
  default : Value
  deriving DecidableEq

/-- A value as one of a kind: a whole number may stand for the nearest float, and
otherwise the kinds must agree. -/
def Value.coerce (kind : Kind) (value : Value) : Except ValueFault Value :=
  match kind, value with
  | .float, .int i => .ok (.float (Binary64.ofInt i.toInt))
  | _, _ => if value.kind = kind then .ok value else .error (.wrongKind kind value.kind)

namespace Definition

/-- The members of an enumeration: the coerced values, each once. -/
def members (name : String) (kind : Kind) (values : List Value) :
    Except SchemaError (List Value) := do
  let coerced ← values.mapM fun value =>
    (value.coerce kind).mapError fun fault => .invalidDefinition name (.badMember value fault)
  let members := coerced.eraseDups
  if members.length < 2 then throw (.invalidDefinition name .tooFewMembers)
  return members

/-- The members with the default, if there is one, moved to the front. -/
def withDefault (name : String) (members : List Value) :
    Option Value → Except SchemaError (List Value)
  | none => .ok members
  | some value =>
    if value ∈ members then .ok (value :: members.erase value)
    else .error (.invalidDefinition name (.defaultNotMember value))

/-- A checked definition.  The name is taken without the blanks around it.  The
default of an enumerated property is its first member unless another is given, and
the default of any other is the zero of its kind unless one is given. -/
def new (name : String) (kind : Kind) (multiple : Bool) (enumeration : Option (List Value))
    (default : Option Value) : Except SchemaError Definition := do
  let name := Text.trim name
  if name.isEmpty then throw (.invalidDefinition name .blankName)
  let default ← default.mapM fun value =>
    (value.coerce kind).mapError fun fault => .invalidDefinition name (.badDefault value fault)
  match enumeration with
  | none => return ⟨name, kind, multiple, none, default.getD kind.zero⟩
  | some values =>
    let members ← withDefault name (← members name kind values) default
    return ⟨name, kind, multiple, some members, members.headD kind.zero⟩

/-- A single value as this property holds it, if it may. -/
def conform (d : Definition) (value : Value) : Except SchemaError Value := do
  let coerced ← (value.coerce d.kind).mapError fun fault => .invalidValue d.name value.text fault
  if d.enumeration.all (coerced ∈ ·) then return coerced
  else throw (.invalidValue d.name coerced.text .notEnumerated)

/-- The values as this property holds them: each admitted, and each once, in the
order of their first occurrence. -/
def validate (d : Definition) (raw : List Value) : Except SchemaError (List Value) := do
  let values := (← raw.mapM d.conform).eraseDups
  if !d.multiple && 1 < values.length then
    throw (.invalidValue d.name (", ".intercalate (values.map Value.text)) .severalValues)
  return values

/-- The values that texts write, as this property holds them. -/
def parse (d : Definition) (texts : List String) : Except SchemaError (List Value) := do
  let raw ← texts.mapM fun text =>
    match d.kind.parse? text with
    | some value => .ok value
    | none => .error (.invalidValue d.name text (.unreadable d.kind))
  d.validate raw

end Definition

/-- What is told about a property to those outside the library. -/
structure Description where
  name : String
  kind : Kind
  enumeration : Option (List Value)
  defaultValue : Value
  multiple : Bool
  deriving DecidableEq

/-- The description of a defined property. -/
def Definition.describe (d : Definition) : Description :=
  ⟨d.name, d.kind, d.enumeration, d.default, d.multiple⟩

end MediaLibrary
