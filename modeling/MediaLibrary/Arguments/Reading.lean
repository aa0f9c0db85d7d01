/-
Reading a command line.

Arguments are read from left to right.  What an option or a positional argument was given
is gathered first and taken when the next one begins, so its faults come to light only
then; an argument that means nothing is refused before that.  Behind two hyphens every
argument is positional.  A subcommand reads the rest of the line by its own grammar, and
whether the command before it got all it needs is looked at last.
-/
import MediaLibrary.Arguments.Spec

namespace MediaLibrary

/-- The values given to options and arguments, by name and in their order. -/
structure Given where
  entries : List (String × List ArgumentValue) := []
  deriving DecidableEq

namespace Given

/-- The values given under a name. -/
def values (g : Given) (name : String) : List ArgumentValue :=
  (g.entries.lookup name).getD []

/-- Whether anything was given under a name. -/
def has (g : Given) (name : String) : Bool :=
  g.entries.any (·.1 = name)

/-- With one more name. -/
def add (g : Given) (name : String) (values : List ArgumentValue) : Given :=
  ⟨g.entries ++ [(name, values)]⟩

/-- With more values under a name. -/
def append (g : Given) (name : String) (values : List ArgumentValue) : Given :=
  if g.has name then
    ⟨g.entries.map fun (n, before) => (n, if n = name then before ++ values else before)⟩
  else g.add name values

/-- With what was gathered for a name taken according to its role. -/
def take (g : Given) (name : String) (role : Role) (raw : List String) :
    Except ArgumentError Given :=
  match role with
  | .switch => if g.has name then .error .conflict else .ok (g.add name [.truth true])
  | .single form =>
    if raw.isEmpty then .error .badValue
    else if g.has name then .error .conflict
    else return g.add name (← raw.mapM form.read)
  | .repeated form =>
    if raw.isEmpty then .error .badValue
    else return g.append name (← raw.mapM form.read)
  | .help => .error .help
  | .version => .error .version

end Given

/-- What was gathered for an option or argument and not taken yet. -/
structure Gathered where
  name : String
  role : Role
  raw : List String

/-- How the next argument is looked at. -/
inductive Expected where
  | anything
  /-- the value of an option -/
  | valueOf (option : OptionSpec)
  /-- perhaps more values of a positional argument -/
  | more

/-- A command line read so far, for one command. -/
structure Reading where
  given : Given := {}
  gathered : Option Gathered := none
  expected : Expected := .anything
  position : Nat := 0
  positionalsOnly : Bool := false

namespace Reading

/-- With everything gathered taken. -/
def settle (r : Reading) : Except ArgumentError Reading :=
  match r.gathered with
  | none => .ok r
  | some g => do return { r with given := ← r.given.take g.name g.role g.raw, gathered := none }

/-- With an option that needs nothing more. -/
def takeOption (r : Reading) (o : OptionSpec) (raw : List String) :
    Except ArgumentError Reading := do
  let r ← r.settle
  return { r with given := ← r.given.take o.long o.role raw, expected := .anything }

/-- With an option that takes the value attached to it or else the next argument. -/
def beginOption (r : Reading) (o : OptionSpec) (attached : Option String) :
    Except ArgumentError Reading :=
  match attached with
  | some value => r.takeOption o [value]
  | none => do
    let r ← r.settle
    return { r with gathered := some ⟨o.long, o.role, []⟩, expected := .valueOf o }

/-- With an option given by its long name. -/
def longOption (spec : CommandSpec) (r : Reading) (name : String) (attached : Option String) :
    Except ArgumentError Reading :=
  match spec.long? name with
  | none => .error .unknownArgument
  | some o =>
    if o.role.takesValue then r.beginOption o attached
    else if attached.isSome then .error .unneededValue
    else r.takeOption o []

/-- The value attached to a short option. -/
def attached? : List Char → Option String
  | [] => none
  | '=' :: value => some (String.ofList value)
  | value => some (String.ofList value)

/-- With options given by their short names, of which the last may have a value. -/
def shortOptions (spec : CommandSpec) (r : Reading) : List Char → Except ArgumentError Reading
  | [] => .ok r
  | c :: rest =>
    match spec.short? c with
    | none => .error .unknownArgument
    | some o =>
      if o.role.takesValue then r.beginOption o (attached? rest)
      else do (← r.takeOption o []).shortOptions spec rest

/-- With one more value for what is being gathered. -/
def gatherValue (r : Reading) (value : String) : Reading :=
  { r with
    gathered := r.gathered.map fun g => { g with raw := g.raw ++ [value] }
    expected := .anything }

/-- The fault of an argument for which the command has no place. -/
def misplaced (spec : CommandSpec) (r : Reading) (arg : String) : ArgumentError :=
  if spec.subcommands.isEmpty then .unknownArgument
  else if r.positionalsOnly && ((spec.subcommand? arg).isSome || spec.isHelpCommand arg) then
    .unknownArgument
  else .unknownCommand

/-- With a positional argument. -/
def positional (spec : CommandSpec) (r : Reading) (arg : String) :
    Except ArgumentError Reading :=
  match spec.positionals[r.position]? with
  | none => .error (r.misplaced spec arg)
  | some p =>
    match p.role, r.gathered with
    | .repeated _, some g =>
      if g.name = p.name then .ok { r.gatherValue arg with expected := .more }
      else do
        let r ← r.settle
        return { r with gathered := some ⟨p.name, p.role, [arg]⟩, expected := .more }
    | .repeated _, none => .ok { r with gathered := some ⟨p.name, p.role, [arg]⟩, expected := .more }
    | _, _ => do
      let r ← r.settle
      return { r with
        gathered := some ⟨p.name, p.role, [arg]⟩
        expected := .anything
        position := r.position + 1 }

/-- The name in a long option, and the value attached to it. -/
def splitLong (name : List Char) : String × Option String :=
  let rest := name.dropWhile (· ≠ '=')
  (String.ofList (name.takeWhile (· ≠ '=')), rest.tail?.map String.ofList)

/-- Whether a subcommand may be named next. -/
def allowsCommand (r : Reading) : Bool :=
  match r.expected with
  | .anything => !r.positionalsOnly
  | _ => false

/-- With one more argument, which is no subcommand. -/
def argument (spec : CommandSpec) (r : Reading) (arg : String) : Except ArgumentError Reading :=
  if r.positionalsOnly then r.positional spec arg
  else
    let asValue : Except ArgumentError Reading :=
      match r.expected with
      | .valueOf _ => .ok (r.gatherValue arg)
      | _ => r.positional spec arg
    let hyphens :=
      match r.expected with
      | .valueOf o => o.hyphens
      | _ => false
    if hyphens then asValue
    else match arg.toList with
      | ['-', '-'] => .ok { r with positionalsOnly := true }
      | '-' :: '-' :: name =>
        let (name, attached) := splitLong name
        r.longOption spec name attached
      | '-' :: c :: names => r.shortOptions spec (c :: names)
      | _ => asValue

/-- What a command was given, if it is all that it needs. -/
def finish (spec : CommandSpec) (r : Reading) (hasCommand : Bool) :
    Except ArgumentError Given := do
  let given := (← r.settle).given
  if !hasCommand && !spec.subcommands.isEmpty then
    throw (if given.entries.isEmpty then .helpInstead else .missingCommand)
  if spec.conflicts.any fun (a, b) => given.has a && given.has b then throw .conflict
  if spec.required.any fun name => !given.has name then throw .missingArgument
  if spec.companions.any fun (a, b) => given.has a && !given.has b then throw .missingArgument
  return given

/-- What the commands of a command line were given, the first command first. -/
def run (spec : CommandSpec) (r : Reading) : List String → Except ArgumentError (List (String × Given))
  | [] => return [(spec.name, ← r.finish spec false)]
  | arg :: rest =>
    if r.allowsCommand && spec.isHelpCommand arg then .error (spec.helpOn rest)
    else match if r.allowsCommand then spec.subcommand? arg else none with
      | some sub => do
        let inner ← run sub {} rest
        return (spec.name, ← r.finish spec true) :: inner
      | none => do (← r.argument spec arg).run spec rest

end Reading

end MediaLibrary
