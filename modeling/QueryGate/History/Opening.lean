import QueryGate.Disk.Content
import QueryGate.Failure

/-!
# Opening the history

The history is opened step by step: make the directory, connect, migrate. Connecting is tried three
times. When a file cannot be opened or migrated, it is moved aside to a backup name and the
opening begins again, once. Other programs may do their own steps in between.
-/

namespace QueryGate

/-- Where a history file is: its path as written, in a directory. -/
structure HistoryPlace where
  base : List FileName := []
  path : Path
  deriving DecidableEq, Repr

namespace HistoryPlace

/-- The way to the file. -/
def way (p : HistoryPlace) : List FileName := p.path.names p.base

/-- The path to which a damaged file is moved. -/
def backupPath (p : HistoryPlace) : Path := p.path.withExtension "db.bak".toList

/-- The way to the backup. -/
def backupWay (p : HistoryPlace) : List FileName := p.backupPath.names p.base

end HistoryPlace

/-- How far the opening of a history is. -/
inductive Opening where
  /-- The directory has to be made. -/
  | preparing
  /-- So many attempts to connect are left; `recovered` after the file was moved aside. -/
  | connecting (attempts : Nat) (recovered : Bool)
  /-- The file of this number is open, and this statement is next. -/
  | migrating (file : Nat) (next : Migration) (recovered : Bool)
  /-- The file has to be moved aside. -/
  | recovering
  /-- The history is open in the file of this number, or cannot be opened. -/
  | finished (result : Except Failure Nat)

namespace Opening

/-- The attempts to connect before a file is given up. -/
def maxAttempts : Nat := 3

/-- A failure of the history. -/
def persistence (detail : String) : Failure := ⟨.persistence, detail⟩

/-- What follows when the file cannot be opened or migrated: recovery, but only once. -/
def giveUp (recovered : Bool) (f : Failure) : Opening :=
  if recovered then
    .finished (.error (persistence ("Failed to recreate database after backup: " ++ f.message)))
  else .recovering

/-- The failure to connect. -/
def connectFailure (e : OpenFault) : Failure :=
  persistence ("Failed to connect to state database: " ++ e.message)

/-- One step of the opening, on the disk as it is now. -/
def step (place : HistoryPlace) (disk : Disk Content) : Opening → Opening × Disk Content
  | .preparing =>
    match place.path.parent? with
    | none => (.connecting maxAttempts false, disk)
    | some parent =>
      if parent.isEmpty then (.connecting maxAttempts false, disk)
      else
        match disk.makeDirectories (parent.names place.base) with
        | .ok disk' => (.connecting maxAttempts false, disk')
        | .error e =>
          (.finished (.error (persistence
            ("Failed to create state directory " ++ String.ofList parent ++ ": " ++ e.message))),
            disk)
  | .connecting attempts recovered =>
    match disk.openDatabase place.way with
    | (.ok file, disk') => (.migrating file .makeVersions recovered, disk')
    | (.error e, disk') =>
      if 1 < attempts then (.connecting (attempts - 1) recovered, disk')
      else (giveUp recovered (connectFailure e), disk')
  | .migrating file next recovered =>
    match disk.database? file with
    | none => (giveUp recovered (connectFailure .notDatabase), disk)
    | some db =>
      let (schema, result) := next.step db.history
      let disk' := disk.updateDatabase file { db with history := schema }
      match result with
      | .ok (some following) => (.migrating file following recovered, disk')
      | .ok none => (.finished (.ok file), disk')
      | .error e => (giveUp recovered (persistence e.message), disk')
  | .recovering =>
    if disk.isPresent place.way then
      match disk.rename place.way place.backupWay with
      | .ok disk' => (.connecting maxAttempts true, disk')
      | .error e =>
        (.finished (.error (persistence
          ("Failed to backup corrupted database to " ++ String.ofList place.backupPath ++ ": " ++
            e.message))),
          disk)
    else (.connecting maxAttempts true, disk)
  | .finished result => (.finished result, disk)

/-- Carries out steps until the opening is finished, `fuel` at most. -/
def runIn (place : HistoryPlace) : Nat → Opening → Disk Content →
    Except Failure Nat × Disk Content
  | 0, o, disk =>
    match o with
    | .finished result => (result, disk)
    | _ => (.error (persistence "Failed to open database after retries"), disk)
  | fuel + 1, o, disk =>
    match o with
    | .finished result => (result, disk)
    | _ => let (o', disk') := o.step place disk; runIn place fuel o' disk'

/-- The most steps of an opening: the directory, the move aside, and twice the attempts to connect
with the statements of a migration. -/
def maxSteps : Nat := 2 + 2 * (maxAttempts + Migration.makeVersions.remaining)

end Opening

/-- Opens the history at a place: the number of its file, or why there is none. -/
def openHistory (place : HistoryPlace) (disk : Disk Content) : Except Failure Nat × Disk Content :=
  Opening.runIn place Opening.maxSteps .preparing disk

end QueryGate
