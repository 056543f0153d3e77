import QueryGate.Admission.Privilege
import QueryGate.CommandLine.Grammar
import QueryGate.Power
import QueryGate.Sample.Request
import QueryGate.Settings.Basic

/-!
# The command line of the program

`sql-sandbox [options] <command>`, where the command asks for one statement to be run, for its
plan, for several statements to be compared, for the caller's history, or for sample data.
-/

namespace QueryGate.CommandLine

open Text

/-- What the program is asked to do. -/
inductive Command where
  | query (sql : Sql)
  | explain (sql : Sql)
  | compare (sqls : List Sql)
  | history (limit offset : Int)
  | generate (request : Sample.Request)
  deriving DecidableEq, Repr

/-- A command line that can be run. -/
structure Invocation where
  settingsPath : Option String := none
  databaseUrl : Option (List Char) := none
  admin : Bool := false
  userId : Int := 1
  maxRows : Option Nat := none
  timeout : Option Nat := none
  noHistory : Bool := false
  logFile : Bool := false
  command : Command
  deriving DecidableEq, Repr

/-! ### Values -/

/-- Any text. -/
def text : Takes := .value fun _ => none

/-- A path, which is not empty. -/
def path : Takes := .value fun v => if v.isEmpty then some .missingValue else none

/-- A number that a reader accepts. -/
def number {α : Type} (read? : List Char → Option α) : Takes :=
  .value fun v => if (read? v).isNone then some .unfitValue else none

/-- A signed number of 64 bits. -/
def readSigned? : List Char → Option Int := readInt? (twoTo 63)

/-- An unsigned number of 64 bits. -/
def readLong? : List Char → Option Nat := readNat? bound64

/-- An unsigned number of 32 bits; a minus sign on zero is accepted. -/
def readShort? (cs : List Char) : Option Nat :=
  (readSigned? cs).bind fun i => if 0 ≤ i ∧ i < bound32 then some i.toNat else none

/-! ### Commands -/

/-- The subcommands; `help` tells about the others. -/
def subcommands : List String := ["query", "explain", "compare", "history", "generate", "help"]

/-- The options in front of the subcommand. -/
def mainGrammar : Grammar where
  options :=
    [("config", path), ("database-url", text), ("admin", .nothing), ("user-id", number readSigned?),
     ("max-rows", number readShort?), ("timeout", number readLong?), ("no-history", .nothing),
     ("log-file", .nothing), ("help", .help), ("version", .version)]
  letters := [('h', .help), ('V', .version)]
  subcommands := subcommands

/-- A subcommand with its own options. -/
def subGrammar (options : List (String × Takes)) (positional : Positional) : Grammar where
  options := options ++ [("help", .help)]
  letters := [('h', .help)]
  positional := positional

/-- The options and arguments of each subcommand. -/
def grammarOf (name : String) : Grammar :=
  if name = "query" ∨ name = "explain" then subGrammar [] .one
  else if name = "compare" then subGrammar [] .many
  else if name = "history" then
    subGrammar [("limit", number readSigned?), ("offset", number readSigned?)] .none
  else
    subGrammar
      [("customers", number readLong?), ("products", number readLong?),
       ("orders", number readLong?), ("items-per-order", number readShort?)] .none

/-- A number that was given, or its default. -/
def numberOr {α : Type} (p : Progress) (name : String) (read? : List Char → Option α)
    (default : α) : α :=
  ((p.value? name).bind read?).getD default

/-- The command of a subcommand that has been read. -/
def commandOf (name : String) (p : Progress) : Command :=
  if name = "query" then .query (p.positionals.headD [])
  else if name = "explain" then .explain (p.positionals.headD [])
  else if name = "compare" then .compare p.positionals
  else if name = "history" then
    .history (numberOr p "limit" readSigned? 20) (numberOr p "offset" readSigned? 0)
  else
    let d : Sample.Request := {}
    .generate {
      customers := numberOr p "customers" readLong? d.customers
      products := numberOr p "products" readLong? d.products
      orders := numberOr p "orders" readLong? d.orders
      itemsPerOrder := numberOr p "items-per-order" readShort? d.itemsPerOrder }

/-- The answer to `help` and the names behind it. -/
def helpOn : List (List Char) → UsageError
  | [] => .help
  | [name] => if subcommands.contains (String.ofList name) then .help else .invalidSubcommand
  | _ => .invalidSubcommand

/-- Reads the command line behind the program's name. -/
def read (args : List (List Char)) : Except UsageError Invocation := do
  let (p, stop) ← mainGrammar.scan {} args
  let command ← match stop with
    | .atEnd => do
      let _ ← mainGrammar.complete p stop
      throw .missingSubcommand
    | .subcommand "help" rest => throw (helpOn rest)
    | .subcommand name rest => do
      let g := grammarOf name
      let (sub, subStop) ← g.scan {} rest
      let sub ← g.complete sub subStop
      pure (commandOf name sub)
  let p ← mainGrammar.complete p stop
  return {
    settingsPath := (p.value? "config").map String.ofList
    databaseUrl := p.value? "database-url"
    admin := p.has "admin"
    userId := numberOr p "user-id" readSigned? 1
    maxRows := (p.value? "max-rows").bind readShort?
    timeout := (p.value? "timeout").bind readLong?
    noHistory := p.has "no-history"
    logFile := p.has "log-file"
    command }

namespace Invocation

def privilege (i : Invocation) : Privilege := .ofAdmin i.admin

/-- The settings with what the command line overrides. -/
def applyTo (i : Invocation) (s : Settings) : Except SettingsError Settings := do
  let s ← match i.databaseUrl with
    | some url => s.useDatabase url
    | none => .ok s
  return {
    s with
    limits := {
      s.limits with
      maxRows := i.maxRows.getD s.limits.maxRows
      timeoutSecs := i.timeout.getD s.limits.timeoutSecs }
    history := { s.history with enabled := s.history.enabled && !i.noHistory } }

end Invocation

end QueryGate.CommandLine
