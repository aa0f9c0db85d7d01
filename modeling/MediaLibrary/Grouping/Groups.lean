/-
The groups of some records.

What a record is grouped by depends on the basis of the grouping.  By a field, a
record has one value.  By a property with a single value, it has that value, or the
default if it has none.  By a property with several values it belongs to the group
of each; a path of values already chosen restricts the records to those that hold
all of them, and only the values beyond the path make groups.

`bucketsOf` sorts the records into buckets in one pass.  A bucket lists its records
in the order in which they were given.
-/
import MediaLibrary.Grouping.Basic
import MediaLibrary.Property.Catalog
import MediaLibrary.Query.Source

namespace MediaLibrary

open Std

/-- What records are grouped by. -/
inductive Basis where
  | field (field : Field)
  /-- a property with one value at most, and its default -/
  | single (property : String) (default : Value)
  /-- a property that may have several values -/
  | several (property : String)

namespace Grouping

/-- The basis of a grouping, if the field or the property it names exists. -/
def basis (g : Grouping) (catalog : Catalog) : Except QueryError Basis :=
  if g.isProperty then
    match catalog.require g.field with
    | .error e => .error (.schema e)
    | .ok d => .ok (if d.multiple then .several d.name else .single d.name d.default)
  else
    match Field.ofText? g.field with
    | some f => .ok (.field f)
    | none => .error (.unknownField g.field)

end Grouping

/-- Records gathered so far: their identifiers and the sum of their lengths. -/
structure Bucket where
  ids : Array RecordId := #[]
  length : Binary64 := Binary64.zero

/-- A bucket with one more record. -/
def Bucket.push (b : Bucket) (r : Record) : Bucket :=
  ⟨b.ids.push r.id, b.length.add r.length⟩

/-- The bucket of some records. -/
def Bucket.ofList (records : List Record) : Bucket :=
  records.foldl Bucket.push {}

namespace Basis

/-- Whether a record holds every value of the path; only a property with several
values has a path. -/
def holdsPath (path : List Value) (r : Record) : Basis → Bool
  | several property => path.all (· ∈ r.values property)
  | _ => true

/-- The values beyond the path that a record holds, each once and in their order. -/
def remaining (path : List Value) (values : List Value) : List Value :=
  (ExtTreeSet.ofList (values.filter (· ∉ path)) compare).toList

/-- The values of the groups to which a record belongs. -/
def keys (path : List Value) (r : Record) : Basis → List (Option GroupValue)
  | field f => [some (.field (f.valueOf r))]
  | single property default => [some (.property ((r.values property).headD default))]
  | several property =>
    if path.all (· ∈ r.values property) then
      match remaining path (r.values property) with
      | [] => if path.isEmpty then [none] else []
      | rest => rest.map fun value => some (.property value)
    else []

/-- Whether the records that hold the whole path make a group of their own. -/
def hasClassified (path : List Value) : Basis → Bool
  | several _ => !path.isEmpty
  | _ => false

end Basis

/-- The buckets by the value that their records share. -/
abbrev Buckets := ExtTreeMap (Option GroupValue) Bucket bucketOrder

/-- The buckets with a record added to those of the given values. -/
def Buckets.push (buckets : Buckets) (r : Record) (keys : List (Option GroupValue)) : Buckets :=
  keys.foldl (fun all key => all.insert key ((all.getD key {}).push r)) buckets

/-- The records in the buckets of their values. -/
def bucketsOf (keys : Record → List (Option GroupValue)) (records : List Record) : Buckets :=
  records.foldl (fun all r => all.push r (keys r)) ∅

/-- The group of a bucket. -/
def Bucket.group (b : Bucket) (value : Option GroupValue) (classified : Bool) : Group :=
  ⟨value, classified, b.ids.toList, b.length⟩

namespace GroupOrder

/-- The order of groups, those of the same count or length by their value. -/
def compare (order : GroupOrder) (a b : Group) : Ordering :=
  match order with
  | byValue => bucketOrder a.value b.value
  | byCount => (Ord.compare a.count b.count).then (bucketOrder a.value b.value)
  | byLength => (Ord.compare a.length b.length).then (bucketOrder a.value b.value)

end GroupOrder

/-- Groups as a grouping arranges them: without those of a single record unless they
are allowed, in their order or the opposite one. -/
def Grouping.arrange (g : Grouping) (groups : List Group) : List Group :=
  let kept := groups.filter fun group => g.allowSingletons || 1 < group.count
  let sorted := kept.mergeSort fun a b => (g.order.compare a b).isLE
  if g.reverse then sorted.reverse else sorted

/-- The groups of records on a basis.  The group of the whole path comes first and is
not subject to the arrangement. -/
def groupsOn (basis : Basis) (g : Grouping) (path : List Value) (records : List Record) :
    List Group :=
  let buckets := bucketsOf (basis.keys path) records
  let groups := buckets.toList.map fun (value, bucket) => bucket.group value false
  let classified :=
    if basis.hasClassified path then
      [(Bucket.ofList (records.filter (basis.holdsPath path))).group none true]
    else []
  classified ++ g.arrange groups

/-- The groups of records.  The records are given in the order of their identifiers
and have passed the other layers of the view. -/
def groupsOf (catalog : Catalog) (g : Grouping) (path : List Value) (records : List Record) :
    Except QueryError (List Group) :=
  (g.basis catalog).map fun basis => groupsOn basis g path records

end MediaLibrary
