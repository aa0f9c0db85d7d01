/-
Filters on records.

A filter is a condition that a record meets or not; `accepts` says which.  The
functions `all`, `any` and `negate` build filters of filters in a normal form:
constants disappear, a conjunction holds no conjunction directly and a disjunction
no disjunction, and neither is left with fewer than two parts.
-/
import MediaLibrary.Query.Search
import MediaLibrary.Record.Field

namespace MediaLibrary

/-- A condition on records. -/
inductive Filter where
  | always
  | never
  | flag (flag : Flag) (expected : Bool)
  | idIn (ids : IdSet)
  | fieldIs (field : Field) (value : FieldValue)
  /-- the property holds the value -/
  | holds (property : String) (value : Value)
  /-- the property has no value -/
  | lacks (property : String)
  /-- the property holds each of the values -/
  | holdsAll (property : String) (values : List Value)
  /-- the needle occurs in the search text in lower case -/
  | contains (needle : String)
  | and (parts : List Filter)
  | or (parts : List Filter)
  | not (part : Filter)

namespace Filter

instance : Inhabited Filter := ⟨always⟩

/-! ### What a filter accepts -/

/-- Whether a list of characters occurs in another. -/
def occursIn (needle : List Char) : List Char → Bool
  | [] => needle.isEmpty
  | c :: rest => needle.isPrefixOf (c :: rest) || occursIn needle rest

mutual

/-- Whether a record meets the condition. -/
def accepts (r : Record) : Filter → Bool
  | always => true
  | never => false
  | flag f expected => r.flags.get f == expected
  | idIn ids => ids.contains r.id
  | fieldIs field value => field.valueOf r = value
  | holds property value => value ∈ r.values property
  | lacks property => (r.values property).isEmpty
  | holdsAll property values => values.all (· ∈ r.values property)
  | contains needle => occursIn needle.toList (Text.lowercaseChars r.searchText.toList)
  | and parts => acceptsEach r parts
  | or parts => acceptsSome r parts
  | not part => !accepts r part

/-- Whether a record meets all of the conditions. -/
def acceptsEach (r : Record) : List Filter → Bool
  | [] => true
  | part :: rest => accepts r part && acceptsEach r rest

/-- Whether a record meets one of the conditions. -/
def acceptsSome (r : Record) : List Filter → Bool
  | [] => false
  | part :: rest => accepts r part || acceptsSome r rest

end

/-! ### Building filters in normal form -/

/-- A filter that is `never`, whatever else it might be equivalent to. -/
def isNever : Filter → Bool
  | never => true
  | _ => false

/-- The parts of a conjunction without constants and nested conjunctions, or nothing
if it can never be met. -/
def conjuncts? : List Filter → Option (List Filter)
  | [] => some []
  | always :: rest => conjuncts? rest
  | never :: _ => none
  | and inner :: rest => (conjuncts? rest).map (inner ++ ·)
  | part :: rest => (conjuncts? rest).map (part :: ·)

/-- The conjunction of some filters. -/
def all (parts : List Filter) : Filter :=
  match conjuncts? parts with
  | none => never
  | some [] => always
  | some [part] => part
  | some parts => and parts

/-- The parts of a disjunction without constants and nested disjunctions, or nothing
if it is always met. -/
def disjuncts? : List Filter → Option (List Filter)
  | [] => some []
  | never :: rest => disjuncts? rest
  | always :: _ => none
  | or inner :: rest => (disjuncts? rest).map (inner ++ ·)
  | part :: rest => (disjuncts? rest).map (part :: ·)

/-- The disjunction of some filters. -/
def any (parts : List Filter) : Filter :=
  match disjuncts? parts with
  | none => always
  | some [] => never
  | some [part] => part
  | some parts => or parts

/-- The opposite of a filter. -/
def negate : Filter → Filter
  | always => never
  | never => always
  | not part => part
  | part => not part

/-- The filter on a text in any mixture of cases. -/
def containsText (text : String) : Filter :=
  contains (Text.lowercase text)

/-! ### Filters as text -/

mutual

/-- The text by which a filter is shown. -/
def display : Filter → String
  | always => "TRUE"
  | never => "FALSE"
  | flag f expected => s!"{f.name} = {expected}"
  | idIn ids => s!"id IN <{ids.size} ids>"
  | fieldIs field value => s!"{field} = {value.display}"
  | holds property value => s!"{property} HAS '{value}'"
  | lacks property => s!"{property} IS EMPTY"
  | holdsAll property values =>
    s!"{property} HAS ALL [" ++ ", ".intercalate (values.map Value.text) ++ "]"
  | contains needle => s!"text CONTAINS '{needle}'"
  | and parts => "(" ++ " AND ".intercalate (displayList parts) ++ ")"
  | or parts => "(" ++ " OR ".intercalate (displayList parts) ++ ")"
  | not part => "NOT " ++ display part

/-- The texts of some filters, one by one. -/
def displayList : List Filter → List String
  | [] => []
  | part :: rest => display part :: displayList rest

end

instance : ToString Filter := ⟨display⟩

end Filter

end MediaLibrary
