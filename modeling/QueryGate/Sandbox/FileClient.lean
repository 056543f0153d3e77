import QueryGate.Connection.Settings
import QueryGate.Disk.Content
import QueryGate.Execution.Floor
import QueryGate.Relational.Database
import QueryGate.Sandbox.Dialogue

/-!
# File databases as clients

A client of a file database carries out requests in transactions on it. What a transaction did is
seen only by its own later commands, and is gone when it is rolled back. Statements of an
administrator take effect at once.
-/

namespace QueryGate

open Relational

/-- A database in a transaction: the state before it, and the state that its commands see. -/
structure Transaction where
  before : Database
  current : Database

namespace Transaction

/-- Answers a command. -/
def respond (t : Transaction) : (c : Command) → c.Result × Transaction
  | .limitTime _ => (.ok (), t)
  | .connectionNumber => (.ok (0 : Nat), t)
  | .begin => (.ok (), { t with current := t.before })
  | .rollback => (.ok (), { t with current := t.before })
  | .probe sql => ((t.current.planText sql).mapError Fault.message, t)
  | .run sql =>
    match t.current.executeText sql with
    | .ok d => (.ok (d.rows.map (Database.record d.labels)), { t with current := d.database })
    | .error fault => (.error fault.message, t)
  | .describe sql =>
    match t.current.labelsText sql with
    | .ok labels => (.ok (labels.map String.ofList), t)
    | .error fault => (.error fault.message, t)

end Transaction

/-- A client of a file database. -/
structure FileClient where
  database : Database := {}
  closed : Bool := false

namespace FileClient

/-- Answers a request. Nothing is asked for a caller who has left already. -/
def answer (c : FileClient) (abandoned : Bool) (r : Request) : Reply :=
  if abandoned then .error abandonedFailure
  else if c.closed then .error (acquireFailure closedPool)
  else (r.unit.play Transaction.respond ⟨c.database, c.database⟩).2.1

/-- Carries out a statement of an administrator: how many rows it changed. -/
def admin (c : FileClient) (sql : Sql) : Except Failure Nat × FileClient :=
  if c.closed then (.error (queryFailure closedPool), c)
  else
    match c.database.executeText sql with
    | .ok d => (.ok d.affected, { c with database := d.database })
    | .error fault => (.error (queryFailure fault.message), c)

def close (c : FileClient) : FileClient := { c with closed := true }

/-- How a request of a caller ends. The database answers before any deadline. -/
def ending (c : FileClient) (r : Request) : Ending × Nat := (.answered (c.answer false r), 0)

end FileClient

/-! ### Connecting -/

/-- The failure of a file database without a path. -/
def noDatabasePath : Failure := ⟨.config, "SQLite database path is required"⟩

/-- The failure to open a database file. -/
def cannotOpenDatabase (path : Path) (e : OpenFault) : Failure :=
  ⟨.connection, "Cannot open SQLite database " ++ String.ofList path ++ ": " ++ e.message⟩

/-- Opens the database that the settings name, for a reader in the directory `base`: the number of
its file, if it has one. -/
def connectFile (base : List FileName) (c : Connection) (disk : Disk Content) :
    Except Failure (Option Nat) × Disk Content :=
  match c.database with
  | none => (.error noDatabasePath, disk)
  | some path =>
    if Path.isTransient path then (.ok none, disk)
    else
      match disk.openDatabase (Path.names base path) with
      | (.ok file, disk') => (.ok (some file), disk')
      | (.error e, disk') => (.error (cannotOpenDatabase path e), disk')

/-- A client of the database that was opened. -/
def FileClient.ofFile (file : Option Nat) (disk : Disk Content) : FileClient where
  database := (file.bind disk.database?).getD {}

end QueryGate
