/-!
# Grammar of a command line

A command takes options, then at most one kind of positional arguments or a subcommand. An option
is written `--name`, with its value as the next argument or behind `=`; a value that starts with a
dash needs the latter. Behind `--` every argument is positional.

The value of an option is looked at when the next option or positional argument comes, when a
subcommand has been read to its end, or when the line ends. So an unknown argument is reported
before an unfit value of the option in front of it.
-/

namespace QueryGate.CommandLine

/-- Why a command line is not run. The last two are no errors but requests for information. -/
inductive UsageError where
  | nothingGiven
  | missingSubcommand
  | missingArgument
  | unknownArgument
  | invalidSubcommand
  | repeated
  | missingValue
  | superfluousValue
  | unfitValue
  | help
  | version
  deriving DecidableEq, Repr

/-- What an option takes. -/
inductive Takes where
  /-- Nothing: its presence is the setting. -/
  | nothing
  /-- A value, which may be wrong in itself. -/
  | value (check : List Char → Option UsageError)
  | help
  | version

/-- The positional arguments of a command. -/
inductive Positional where
  | none
  | one
  | many
  deriving DecidableEq, Repr

/-- A command: its options by name and by letter, its positional arguments, its subcommands. -/
structure Grammar where
  options : List (String × Takes)
  letters : List (Char × Takes) := []
  positional : Positional := .none
  subcommands : List String := []

/-- An option that was given, with its value if it takes one. -/
structure Given where
  name : String
  value : Option (List Char)
  deriving DecidableEq, Repr

/-- What has been read of a command. -/
structure Progress where
  given : List Given := []
  positionals : List (List Char) := []
  /-- An option that takes a value, with the value once it is there. -/
  pending : Option Given := none
  /-- Every further argument is positional. -/
  trailing : Bool := false
  deriving Repr

/-- How the reading of a command stopped: at its end, or at a subcommand with its arguments. -/
inductive Stop where
  | atEnd
  | subcommand (name : String) (args : List (List Char))

namespace Grammar

def find? (g : Grammar) (name : String) : Option Takes :=
  (g.options.find? (·.1 == name)).map (·.2)

/-- Takes an option with its value into what is given. -/
def accept (g : Grammar) (p : Progress) (o : Given) : Except UsageError Progress :=
  match g.find? o.name, o.value with
  | some (.value _), none => .error .missingValue
  | some (.value check), some v =>
    if p.given.any (·.name == o.name) then .error .repeated
    else
      match check v with
      | some e => .error e
      | none => .ok { p with given := p.given ++ [o] }
  | _, _ =>
    if p.given.any (·.name == o.name) then .error .repeated
    else .ok { p with given := p.given ++ [o] }

/-- Takes a pending option in. -/
def settle (g : Grammar) (p : Progress) : Except UsageError Progress :=
  match p.pending with
  | none => .ok p
  | some o => g.accept { p with pending := none } o

/-- The name of an option and the value behind its `=`. -/
def splitLong (cs : List Char) : String × Option (List Char) :=
  let name := String.ofList (cs.takeWhile (· != '='))
  match cs.dropWhile (· != '=') with
  | _ :: v => (name, some v)
  | [] => (name, none)

/-- Reads `--name` or `--name=value`, given without its dashes. -/
def long (g : Grammar) (p : Progress) (cs : List Char) : Except UsageError Progress :=
  let (name, attached) := splitLong cs
  match g.find? name with
  | none => .error .unknownArgument
  | some (.value _) =>
    match attached with
    | some v => do g.accept (← g.settle p) ⟨name, some v⟩
    | none => do return { ← g.settle p with pending := some ⟨name, none⟩ }
  | some takes =>
    if attached.isSome then .error .superfluousValue
    else do
      let p ← g.settle p
      match takes with
      | .help => .error .help
      | .version => .error .version
      | _ => g.accept p ⟨name, none⟩

/-- Reads a dash and a letter. Only requests for information have letters. -/
def short (g : Grammar) (p : Progress) (letter : Char) : Except UsageError Progress :=
  match g.letters.find? (·.1 == letter) with
  | some (_, .help) => do
    let _ ← g.settle p
    throw .help
  | some (_, .version) => do
    let _ ← g.settle p
    throw .version
  | _ => .error .unknownArgument

/-- Reads a positional argument. -/
def positionalArgument (g : Grammar) (p : Progress) (cs : List Char) :
    Except UsageError Progress :=
  match g.positional, p.positionals with
  | .many, _ => do
    let p ← g.settle p
    return { p with positionals := p.positionals ++ [cs] }
  | .one, [] => do
    let p ← g.settle p
    return { p with positionals := [cs] }
  | _, _ =>
    if g.subcommands.isEmpty then .error .unknownArgument
    else if p.trailing && g.subcommands.contains (String.ofList cs) then .error .unknownArgument
    else .error .invalidSubcommand

/-- Reads arguments up to the end or to a subcommand. -/
def scan (g : Grammar) (p : Progress) : List (List Char) → Except UsageError (Progress × Stop)
  | [] => .ok (p, .atEnd)
  | a :: rest =>
    if p.trailing then do scan g (← g.positionalArgument p a) rest
    else
      let awaiting := match p.pending with
        | some o => o.value.isNone
        | none => false
      if !awaiting && g.subcommands.contains (String.ofList a) then
        .ok (p, .subcommand (String.ofList a) rest)
      else
        match a with
        | ['-', '-'] => scan g { p with trailing := true } rest
        | '-' :: '-' :: cs => do scan g (← g.long p cs) rest
        | '-' :: c :: _ => do scan g (← g.short p c) rest
        | _ =>
          if awaiting then
            scan g { p with pending := p.pending.map fun o => { o with value := some a } } rest
          else do scan g (← g.positionalArgument p a) rest

/-- Checks what must be there at the end of a command: a subcommand, if it has any, or its
positional arguments. -/
def complete (g : Grammar) (p : Progress) (stop : Stop) : Except UsageError Progress := do
  let p ← g.settle p
  match stop with
  | .subcommand _ _ => return p
  | .atEnd =>
    if !g.subcommands.isEmpty then
      if p.given.isEmpty then throw .nothingGiven else throw .missingSubcommand
    else if g.positional != .none && p.positionals.isEmpty then throw .missingArgument
    else return p

end Grammar

/-- The value of an option that was given. -/
def Progress.value? (p : Progress) (name : String) : Option (List Char) :=
  (p.given.find? (·.name == name)).bind (·.value)

/-- An option was given. -/
def Progress.has (p : Progress) (name : String) : Bool := p.given.any (·.name == name)

end QueryGate.CommandLine
