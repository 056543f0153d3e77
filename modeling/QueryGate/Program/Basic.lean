import QueryGate.Program.LineFilter
import QueryGate.Program.Session

/-!
# The program

One run: read the environment file and the command line, start the log, read the settings, do what
is asked, and print the result. A failure becomes one line of the log and decides the exit status;
what goes wrong with a statement is part of its result.
-/

namespace QueryGate

/-- How a run ends. -/
inductive Exit where
  | done
  | failed
  /-- The command line could not be read. -/
  | misused
  deriving DecidableEq, Repr

/-- The number that the system is told. -/
def Exit.code : Exit → Nat
  | .done => 0
  | .failed => 1
  | .misused => 2

/-- What a run prints. -/
inductive Printed where
  | result (j : Json)
  | text (s : List Char)

/-- What came of a run. -/
structure Run where
  exit : Exit
  printed? : Option Printed := none
  /-- The lines on the error channel. -/
  complaints : List (List Char) := []
  disk : Disk Content

namespace Program

/-- The name of the program's part that writes the log. -/
def partName : List Char := "sql_sandbox".toList

/-- Where log lines go. -/
inductive LogPlace where
  | console
  /-- The file of this number. -/
  | file (number : Nat)
  deriving DecidableEq, Repr

/-- The first line of a text. -/
def firstLine (s : List Char) : List Char := s.takeWhile (· ≠ '\n')

/-- The line that reports a failure. -/
def failureLine (f : Failure) : List Char :=
  "ERROR ".toList ++ partName ++ ": ".toList ++
    firstLine (f.kind.category ++ ": " ++ f.message).toList

/-- Starts the log: where it goes, what there is to complain of, and the disk. A log file is emptied
first; without one the lines go to the error channel. -/
def startLog (w : World) (toFile : Bool) : LogPlace × List (List Char) × Disk Content :=
  if !toFile then (.console, [], w.disk)
  else
    match w.disk.makeDirectories (Path.names w.base w.logDirectory) with
    | .error e =>
      (.console, [("Warning: Could not create log directory: " ++ e.message).toList], w.disk)
    | .ok disk =>
      match disk.openFile (Path.names w.base w.logPath) (.text []) with
      | .error e => (.console, [("Warning: Could not create log file: " ++ e.message).toList], disk)
      | .ok (number, disk) => (.file number, [], disk.write number (.text []))

/-- Writes a line to a file. -/
def appendLine (disk : Disk Content) (number : Nat) (line : List Char) : Disk Content :=
  match disk.content? number with
  | some (.text s) => disk.write number (.text (s ++ line ++ ['\n']))
  | _ => disk

/-- The run with a line in its log. -/
def writeLog (r : Run) (place : LogPlace) (line : List Char) : Run :=
  match place with
  | .console => { r with complaints := r.complaints ++ [line] }
  | .file number => { r with disk := appendLine r.disk number line }

/-- The version of the program. -/
def versionText : List Char := "sql-sandbox 0.1.0".toList

/-- What the program tells about its use. -/
def helpText : List Char :=
  ("Admission control and bounded execution for ad-hoc SQL\n\n" ++
    "Usage: sql-sandbox [OPTIONS] <COMMAND>").toList

/-- The run of a command line that asks for no work. -/
def decline (w : World) (e : CommandLine.UsageError) : Run :=
  match e with
  | .version => { exit := .done, printed? := some (.text versionText), disk := w.disk }
  | .help => { exit := .done, printed? := some (.text helpText), disk := w.disk }
  | _ => { exit := .misused, disk := w.disk }

/-- The run of an invocation with a database and a history of any kind. -/
def invokeWith {β σ : Type} (engine : World → Settings → Engine β)
    (keeping : World → Settings → Keeping σ) (w : World) (i : CommandLine.Invocation) : Run :=
  let (place, complaints, disk) := startLog w i.logFile
  let w := { w with disk }
  let work : DiskStep Json := do
    let s ← DiskStep.ofFunction fun disk => (w.settings i, disk)
    perform (engine w s) (keeping w s) w s i
  let (result, disk) := (work.run disk : Except Failure Json × Disk Content)
  match result with
  | .ok j => { exit := .done, printed? := some (.result j), complaints, disk }
  | .error f =>
    let r : Run := { exit := .failed, complaints, disk }
    let filter := LineFilter.ofSetting (w.environment.get? "RUST_LOG")
    if filter.showsErrors partName then writeLog r place (failureLine f) else r

/-- The run of an invocation. -/
def invoke (w : World) (i : CommandLine.Invocation) : Run :=
  invokeWith (fun w s => Backing.engine w s i.privilege) World.keeping w i

/-- The run with the given arguments, which follow the program's name. -/
def run (w : World) (args : List (List Char)) : Run :=
  let w := w.withEnvironmentFile
  match CommandLine.read args with
  | .error e => decline w e
  | .ok i => invoke w i

end Program

end QueryGate
