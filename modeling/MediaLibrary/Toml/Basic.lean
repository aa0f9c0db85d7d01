/-
TOML values.

A TOML document is a table of values by name.
-/
import MediaLibrary.Binary64.Layout
import MediaLibrary.Toml.Moment

namespace MediaLibrary

/-- A TOML value. -/
inductive Toml where
  | str (s : String)
  | int (i : Int64)
  | float (x : Binary64)
  | bool (b : Bool)
  | moment (m : Toml.Moment)
  | arr (items : List Toml)
  | table (entries : List (String × Toml))

namespace Toml

instance : Inhabited Toml := ⟨table []⟩

/-- The entries of a table; another value has none. -/
def entries : Toml → List (String × Toml)
  | table entries => entries
  | _ => []

/-- The items of an array; another value has none. -/
def items : Toml → List Toml
  | arr items => items
  | _ => []

/-- A character of a name without quotes. -/
def isBare (c : Char) : Bool :=
  c.isAlphanum || c = '_' || c = '-'

/-- The entry of a table. -/
def get? (name : String) (t : Toml) : Option Toml := t.entries.lookup name

/-- Entries with another one under a name, in the place of the former one or at the end. -/
def setEntry {α : Type} (name : String) (a : α) (entries : List (String × α)) :
    List (String × α) :=
  if entries.any (·.1 = name) then
    entries.map fun (n, old) => (n, if n = name then a else old)
  else entries ++ [(name, a)]

end Toml

end MediaLibrary
