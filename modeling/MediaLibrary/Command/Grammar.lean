/-
The command line of the program.

`Invocation.ofArguments` reads a command line by the grammar `commandLine`.  Three options
belong to every command and may stand before or behind its name: the database, the switch
for quiet, and the switch for JSON.
-/
import MediaLibrary.Arguments.Reading
import MediaLibrary.Command.Basic

namespace MediaLibrary

/-! ### The grammar -/

/-- The options of every command. -/
def commonOptions : List OptionSpec :=
  [⟨"db", none, .single .text, false⟩,
    ⟨"quiet", some 'q', .switch, false⟩,
    ⟨"json", none, .switch, false⟩,
    ⟨"help", some 'h', .help, false⟩]

/-- The options for the layers of a view. -/
def viewOptions : List OptionSpec :=
  [⟨"source", some 's', .repeated .text, false⟩,
    ⟨"group-by", none, .single .text, false⟩,
    ⟨"group-tag", none, .single .text, false⟩,
    ⟨"group-sort", none, .single .text, false⟩,
    ⟨"reverse", none, .switch, false⟩,
    ⟨"singletons", none, .switch, false⟩,
    ⟨"classifier", some 'c', .repeated .text, false⟩,
    ⟨"group", some 'g', .single .number, false⟩,
    ⟨"search", some 'S', .single .text, false⟩,
    ⟨"search-mode", none, .single .text, false⟩,
    ⟨"sort", none, .repeated .text, true⟩,
    ⟨"include", none, .repeated .number, false⟩,
    ⟨"exclude", none, .repeated .number, false⟩]

/-- The options for the layers of a view that exclude each other. -/
def viewConflicts : List (String × String) :=
  [("group-by", "group-tag"), ("include", "exclude")]

/-- The commands on properties. -/
def propertyCommands : List CommandSpec :=
  [{ name := "define"
     options := commonOptions ++
       [⟨"kind", some 'k', .single .text, false⟩, ⟨"multiple", some 'm', .switch, false⟩,
         ⟨"enum", some 'e', .repeated .text, false⟩, ⟨"default", some 'd', .single .text, false⟩]
     positionals := [⟨"name", .single .text⟩]
     required := ["name"] },
    { name := "rename"
      options := commonOptions
      positionals := [⟨"old", .single .text⟩, ⟨"new", .single .text⟩]
      required := ["old", "new"] },
    { name := "remove"
      aliases := ["rm"]
      options := commonOptions
      positionals := [⟨"name", .single .text⟩]
      required := ["name"] },
    { name := "multiple"
      options := commonOptions
      positionals := [⟨"name", .single .text⟩, ⟨"multiple", .single .truth⟩]
      required := ["name", "multiple"] },
    { name := "list", aliases := ["ls"], options := commonOptions },
    { name := "describe"
      options := commonOptions
      positionals := [⟨"name", .single .text⟩]
      required := ["name"] }]

/-- The grammar of the command line. -/
def commandLine : CommandSpec :=
  { name := "mediacat"
    options := commonOptions ++ [⟨"version", some 'V', .version, false⟩]
    subcommands :=
      [{ name := "view"
         aliases := ["v"]
         options := commonOptions ++ viewOptions ++
           [⟨"page", some 'p', .single .number, false⟩,
             ⟨"page-size", none, .single .number, false⟩]
         conflicts := viewConflicts },
        { name := "import"
          options := commonOptions
          positionals := [⟨"file", .single .path⟩]
          required := ["file"] },
        { name := "property"
          aliases := ["prop"]
          options := commonOptions
          subcommands := propertyCommands },
        { name := "tag"
          aliases := ["t"]
          options := commonOptions ++ [⟨"id", some 'i', .repeated .number, false⟩]
          positionals := [⟨"property", .single .text⟩, ⟨"values", .repeated .text⟩]
          required := ["property", "id"] },
        { name := "moves"
          options := commonOptions ++
            [⟨"from", none, .single .number, false⟩, ⟨"to", none, .single .number, false⟩]
          companions := [("from", "to"), ("to", "from")] },
        { name := "column"
          options := commonOptions ++ viewOptions
          positionals := [⟨"field", .single .text⟩]
          required := ["field"]
          conflicts := viewConflicts }] }

/-! ### What was given -/

namespace Given

/-- The texts given under a name. -/
def texts (g : Given) (name : String) : List String :=
  (g.values name).filterMap fun
    | .text s => some s
    | _ => none

/-- The numbers given under a name. -/
def numbers (g : Given) (name : String) : List UInt64 :=
  (g.values name).filterMap fun
    | .number n => some n
    | _ => none

/-- The text given under a name. -/
def text? (g : Given) (name : String) : Option String := (g.texts name).head?

/-- The number given under a name. -/
def number? (g : Given) (name : String) : Option UInt64 := (g.numbers name).head?

/-- The text given under a name, or none at all. -/
def text (g : Given) (name : String) : String := (g.text? name).getD ""

/-- The layers of a view. -/
def viewArguments (g : Given) : ViewArguments :=
  let default : ViewArguments := {}
  { sources := g.texts "source"
    groupBy := g.text? "group-by"
    groupTag := g.text? "group-tag"
    groupSort := (g.text? "group-sort").getD default.groupSort
    reverse := g.has "reverse"
    singletons := g.has "singletons"
    classifier := g.texts "classifier"
    group := (g.number? "group").getD default.group
    search := g.text? "search"
    searchMode := (g.text? "search-mode").getD default.searchMode
    sort := g.texts "sort"
    included := g.numbers "include"
    excluded := g.numbers "exclude" }

/-- A command on properties, by its name. -/
def propertyCommand? (g : Given) : String → Option PropertyCommand
  | "define" =>
    some (.define (g.text "name") ((g.text? "kind").getD "str") (g.has "multiple")
      (g.texts "enum") (g.text? "default"))
  | "rename" => some (.rename (g.text "old") (g.text "new"))
  | "remove" => some (.remove (g.text "name"))
  | "multiple" => some (.multiple (g.text "name") (g.values "multiple" = [.truth true]))
  | "list" => some .list
  | "describe" => some (.describe (g.text "name"))
  | _ => none

/-- A command other than those on properties, by its name. -/
def command? (g : Given) : String → Option Command
  | "view" => some (.view g.viewArguments ((g.number? "page").getD 0) (g.number? "page-size"))
  | "import" => some (.importFile (g.text "file"))
  | "tag" => some (.tag (g.text "property") (g.texts "values") (g.numbers "id"))
  | "moves" =>
    some (match g.number? "from", g.number? "to" with
      | some missing, some found => .resolveMove missing found
      | _, _ => .listMoves)
  | "column" => some (.column (g.text "field") g.viewArguments)
  | _ => none

end Given

/-- The command that the levels of a command line name. -/
def Command.ofLevels? : List (String × Given) → Option Command
  | [_, (name, given)] => given.command? name
  | [_, _, (name, given)] => (given.propertyCommand? name).map .property
  | _ => none

/-- The call that a command line makes.  A common option given at several levels counts
where it was given last. -/
def Invocation.ofArguments (arguments : List String) : Except ArgumentError Invocation := do
  let levels ← Reading.run commandLine {} arguments
  match Command.ofLevels? levels with
  | none => throw .missingCommand
  | some command =>
    return {
      database := (levels.filterMap fun (_, given) => given.text? "db").getLast?
      quiet := levels.any fun (_, given) => given.has "quiet"
      json := levels.any fun (_, given) => given.has "json"
      command }

end MediaLibrary
