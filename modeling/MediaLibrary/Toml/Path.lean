/-
Places in a table, named by paths.

A path is a name and the steps behind it: a dot and the name of an entry, or the number of
an item in square brackets, as in `sort[0]`.  A negative number counts from the end.  To
put a value in a place makes what is missing on the way, in the stead of what cannot be
stepped into; a table that is put where one is adds its entries to those that are there.
-/
import MediaLibrary.Toml.Basic

namespace MediaLibrary.Toml

/-- A step from a value to a part of it. -/
inductive Step where
  | entry (name : String)
  | item (index : Int)
  deriving DecidableEq

/-- The name of an entry of a table, and the steps from there. -/
structure Path where
  root : String
  steps : List Step
  deriving DecidableEq

namespace Path

/-! ### Reading -/

/-- A name in a path. -/
def name? (cs : List Char) : Option String :=
  if cs.isEmpty || !cs.all isBare then none else some (String.ofList cs)

/-- A number, if it fits in 64 bits with a sign. -/
def inRange? (i : Int) : Option Int :=
  (Text.int64OfInt? i).map Int64.toInt

/-- The number of an item, perhaps with blanks around it. -/
def index? (cs : List Char) : Option Int :=
  let isBlank (c : Char) : Bool := c = ' ' || c = '\t'
  let cs := ((cs.dropWhile isBlank).reverse.dropWhile isBlank).reverse
  match cs with
  | '-' :: digits => (Text.natural? digits).bind fun n => inRange? (-(n : Int))
  | digits => (Text.natural? digits).bind fun n => inRange? n

/-- A text cut in front of each dot and each opening bracket. -/
def pieces : List Char → List Char × List (List Char)
  | [] => ([], [])
  | c :: rest =>
    let (first, others) := pieces rest
    if c = '.' || c = '[' then ([], (c :: first) :: others) else (c :: first, others)

/-- The step that a piece writes. -/
def step? : List Char → Option Step
  | '.' :: name => (name? name).map .entry
  | '[' :: number =>
    if number.getLast? = some ']' then (index? number.dropLast).map .item else none
  | _ => none

/-- The path that a text writes. -/
def ofText? (s : String) : Option Path := do
  let (root, steps) := pieces s.toList
  return ⟨← name? root, ← steps.mapM step?⟩

example : ofText? "sort[ -1 ].by" = some ⟨"sort", [.item (-1), .entry "by"]⟩ := by decide +kernel
example : ofText? "sort[0" = none ∧ ofText? "a..b" = none ∧ ofText? "" = none := by decide +kernel

end Path

/-! ### Putting values in their places -/

mutual

/-- What stands in a place where a value is put. -/
def settle (present : Toml) : Toml → Toml
  | table entries => settleEntries present.entries entries
  | v => v

/-- A table to whose entries others are added. -/
def settleEntries (present : List (String × Toml)) : List (String × Toml) → Toml
  | [] => table present
  | (name, v) :: rest =>
    settleEntries (setEntry name (settle ((present.lookup name).getD default) v) present) rest

end

/-- The number of items that there is room for in an array. -/
def maxItems : Nat := 16777216

/-- Items among which there is one with a number, and where it stands.  Missing ones are
made at the end, or in front if the number counts from the end.  There may be no room for
them. -/
def reachItem? (index : Int) (items : List Toml) : Option (List Toml × Nat) :=
  let place := if index < 0 then index + items.length else index
  if maxItems ≤ place.natAbs then none
  else if place < 0 then some (List.replicate place.natAbs default ++ items, 0)
  else some (items ++ List.replicate (place.toNat + 1 - items.length) default, place.toNat)

/-- A value with another one put in a place behind some steps. -/
def putAt? (v : Toml) : List Step → Toml → Option Toml
  | [], present => some (settle present v)
  | .entry name :: steps, present => do
    let part := (present.entries.lookup name).getD default
    return table (setEntry name (← putAt? v steps part) present.entries)
  | .item index :: steps, present => do
    let (items, place) ← reachItem? index present.items
    return arr (items.set place (← putAt? v steps (items[place]?.getD default)))

/-- A table with a value put in a place. -/
def Path.put? (path : Path) (v : Toml) (t : Toml) : Option Toml :=
  putAt? v (.entry path.root :: path.steps) t

/-- The table whose entries stand in the places that the names of other entries name; none
if there is no room for one of them.  A name that is no path stands for itself. -/
def unfoldNames? (entries : List (String × Toml)) : Option Toml :=
  entries.foldlM (fun t (name, v) => ((Path.ofText? name).getD ⟨name, []⟩).put? v t) default

end MediaLibrary.Toml
