/-
The search layer of a view.

A search is a text and a way to read it: as terms that must all occur, as terms of
which one must occur, as a text to be found as it stands, or as the identifier of a
record.  Terms are looked up in an index from terms to records; how the records of
several terms are combined is decided here.
-/
import MediaLibrary.Record.Basic
import MediaLibrary.Text.Terms
import Std.Data.ExtTreeSet

namespace MediaLibrary

open Std

/-- A set of record identifiers. -/
abbrev IdSet := ExtTreeSet RecordId

/-- How a search text is read. -/
inductive SearchCondition where
  /-- every term occurs -/
  | and
  /-- some term occurs -/
  | or
  /-- every term occurs, and the text does as it stands -/
  | exact
  /-- the text is an identifier -/
  | id
  deriving DecidableEq

namespace SearchCondition

/-- The name of a condition. -/
def name : SearchCondition → String
  | and => "and"
  | or => "or"
  | exact => "exact"
  | id => "id"

instance : ToString SearchCondition := ⟨name⟩

/-- The condition with exactly a given name. -/
def ofName? : String → Option SearchCondition
  | "and" => some and
  | "or" => some or
  | "exact" => some exact
  | "id" => some id
  | _ => none

/-- The condition with a given name, where two conditions have a second one. -/
def ofAnyName? : String → Option SearchCondition
  | "all" => some and
  | "any" => some or
  | name => ofName? name

/-- The condition that a text names, in any mixture of cases. -/
def ofText (text : String) : Except UnknownName SearchCondition :=
  let name := Text.lowercase text
  UnknownName.orElse "search condition" name (ofAnyName? name)

end SearchCondition

/-- A search text and how it is read. -/
structure Search where
  text : String
  condition : SearchCondition
  deriving DecidableEq

/-- A blank text searches for nothing in particular. -/
def Search.isBlank (s : Search) : Bool :=
  Text.isBlankText s.text

/-- How the records of several terms are combined. -/
inductive Combination where
  | all
  | any
  deriving DecidableEq

/-- The records in all, or in any, of some sets; no sets hold no records. -/
def Combination.of (mode : Combination) : List IdSet → IdSet
  | [] => ∅
  | first :: rest =>
    match mode with
    | all => rest.foldl (· ∩ ·) first
    | any => rest.foldl (· ∪ ·) first

end MediaLibrary
