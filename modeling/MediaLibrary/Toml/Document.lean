/-
How a TOML document builds its table.

A document is a list of statements: headers, which open a table or another element of an
array of tables, and entries, which set a value in the open table.  A name with dots leads
through tables that are made on the way.  What a header or an entry has made is not made
again: each table has one header at most, and entries add nothing to a table that has a
header of its own.
-/
import MediaLibrary.Toml.Basic

namespace MediaLibrary.Toml

/-- What a name stands for in a table that is being built. -/
inductive Node where
  | value (v : Toml)
  /-- a table that headers have led through -/
  | through (entries : List (String × Node))
  /-- a table that names of entries have led through -/
  | dotted (entries : List (String × Node))
  /-- a table with a header of its own -/
  | headed (entries : List (String × Node))
  /-- an array of tables, the last first -/
  | elements (earlier : List (List (String × Node))) (last : List (String × Node))

/-- The entries of a table that is being built. -/
abbrev Entries := List (String × Node)

/-- Changes the entries at the end of a path of headers. -/
def through (path : List String) (change : Entries → Option Entries) (entries : Entries) :
    Option Entries :=
  match path with
  | [] => change entries
  | name :: rest =>
    match entries.lookup name with
    | none => do return setEntry name (.through (← through rest change [])) entries
    | some (.through inner) => do
      return setEntry name (.through (← through rest change inner)) entries
    | some (.dotted inner) => do
      return setEntry name (.dotted (← through rest change inner)) entries
    | some (.headed inner) => do
      return setEntry name (.headed (← through rest change inner)) entries
    | some (.elements earlier last) => do
      return setEntry name (.elements earlier (← through rest change last)) entries
    | some (.value _) => none

/-- Sets a value by a name with dots.  The value goes into a table that only names of
entries have made; on the way there the name may lead through tables that headers have
led through, and through the last element of an array of tables. -/
def assign (path : List String) (v : Toml) (entries : Entries) : Option Entries :=
  match path with
  | [] => none
  | [name] => if (entries.lookup name).isSome then none else some (setEntry name (.value v) entries)
  | name :: next :: rest =>
    match entries.lookup name with
    | none => do return setEntry name (.dotted (← assign (next :: rest) v [])) entries
    | some (.dotted inner) => do
      return setEntry name (.dotted (← assign (next :: rest) v inner)) entries
    | some (.through inner) => do
      if rest.isEmpty then none
      return setEntry name (.through (← assign (next :: rest) v inner)) entries
    | some (.elements earlier last) => do
      if rest.isEmpty then none
      return setEntry name (.elements earlier (← assign (next :: rest) v last)) entries
    | _ => none

/-- Opens a table by its header. -/
def openTable (name : String) (entries : Entries) : Option Entries :=
  match entries.lookup name with
  | none => some (setEntry name (.headed []) entries)
  | some (.through inner) => some (setEntry name (.headed inner) entries)
  | _ => none

/-- Opens another element of an array of tables. -/
def openElement (name : String) (entries : Entries) : Option Entries :=
  match entries.lookup name with
  | none => some (setEntry name (.elements [] []) entries)
  | some (.elements earlier last) => some (setEntry name (.elements (last :: earlier) []) entries)
  | _ => none

/-- A statement of a document. -/
inductive Statement where
  | table (path : List String)
  | element (path : List String)
  | entry (path : List String) (value : Toml)

/-- The entries of a document so far, and the path of the open table. -/
structure Building where
  entries : Entries := []
  current : List String := []

/-- The document with one more statement. -/
def Building.add (b : Building) : Statement → Option Building
  | .table path => do
    let name ← path.getLast?
    return ⟨← through path.dropLast (openTable name) b.entries, path⟩
  | .element path => do
    let name ← path.getLast?
    return ⟨← through path.dropLast (openElement name) b.entries, path⟩
  | .entry path v => do
    return { b with entries := ← through b.current (assign path v) b.entries }

mutual

/-- The value that a node has become. -/
def Node.toToml : Node → Toml
  | .value v => v
  | .through entries => .table (entriesToToml entries)
  | .dotted entries => .table (entriesToToml entries)
  | .headed entries => .table (entriesToToml entries)
  | .elements earlier last => .arr (elementsToToml [.table (entriesToToml last)] earlier)

/-- The entries of a table as they are in the end. -/
def entriesToToml : Entries → List (String × Toml)
  | [] => []
  | (name, node) :: rest => (name, node.toToml) :: entriesToToml rest

/-- The elements, given the last first, in front of others. -/
def elementsToToml (after : List Toml) : List Entries → List Toml
  | [] => after
  | entries :: earlier => elementsToToml (.table (entriesToToml entries) :: after) earlier

end

/-- The table of a document; none if statements contradict each other. -/
def ofStatements? (statements : List Statement) : Option Toml := do
  let built ← statements.foldlM Building.add {}
  return .table (entriesToToml built.entries)

end MediaLibrary.Toml
