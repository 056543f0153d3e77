import QueryGate.Disk.Content
import QueryGate.Environment.File
import QueryGate.History.Instant
import QueryGate.Server.Script
import QueryGate.Settings.Sources

/-!
# The surroundings of a run

What a run of the program finds around it, and where it looks for its files. The directories for
settings and for state follow the XDG rules: a variable that holds an absolute path names them, and
without one they lie below the home directory.
-/

namespace QueryGate

/-- What surrounds a run. -/
structure World where
  disk : Disk Content := {}
  /-- The working directory. -/
  base : List FileName := []
  environment : Environment := {}
  /-- The home directory of the account, if no variable names another. -/
  home : Path := ['/']
  /-- The time. -/
  now : Instant := 0
  /-- The server that can be reached. -/
  server : Server.Script := ⟨[], [], false⟩

namespace World

/-- The name of the program's own directories. -/
def programName : FileName := "sql-sandbox".toList

/-- The home directory. -/
def homeDirectory (w : World) : Path :=
  match w.environment.get? "HOME" with
  | some (c :: cs) => c :: cs
  | _ => w.home

/-- The absolute path in a variable, or a place below the home directory. -/
def placeOf (w : World) (name : String) (belowHome : Path) : Path :=
  match (w.environment.get? name).filter Path.isAbsolute with
  | some p => p
  | none => Path.join w.homeDirectory belowHome

/-- The program's directory for settings and history. -/
def settingsDirectory (w : World) : Path :=
  Path.join (w.placeOf "XDG_CONFIG_HOME" ".config".toList) programName

/-- The usual settings file. -/
def settingsPath (w : World) : Path := Path.join w.settingsDirectory "config.toml".toList

/-- The usual file of the history. -/
def historyPath (w : World) : Path := Path.join w.settingsDirectory "history.db".toList

/-- The program's directory for its log. -/
def logDirectory (w : World) : Path :=
  Path.join (w.placeOf "XDG_STATE_HOME" ".local/state".toList) programName

/-- The file of the log. -/
def logPath (w : World) : Path := Path.join w.logDirectory "sql-sandbox.log".toList

/-- Where an environment file may be: it is called `.env` and stands in the working directory or in
one above it. -/
def environmentWays (w : World) : List (List FileName) :=
  (List.range (w.base.length + 1)).reverse.map fun n => w.base.take n ++ [".env".toList]

/-- The text of the nearest environment file. -/
def environmentText? (w : World) : Option (List Char) :=
  match (w.environmentWays.find? w.disk.isFile).map w.disk.read with
  | some (.ok (.text s)) => some s
  | _ => none

/-- The world with the variables of the environment file. -/
def withEnvironmentFile (w : World) : World :=
  match w.environmentText? with
  | some s => { w with environment := w.environment.addFile s }
  | none => w

/-- What stands at a path in place of the settings file. -/
def settingsText (w : World) (path : Path) : SettingsText :=
  let way := Path.names w.base path
  if !w.disk.isPresent way then .absent
  else
    match w.disk.read way with
    | .ok (.text s) => .found s
    | .ok _ => .unreadable "stream did not contain valid UTF-8"
    | .error e => .unreadable e.message

/-- The settings file of an invocation. -/
def settingsPathFor (w : World) (i : CommandLine.Invocation) : Path :=
  (i.settingsPath.map String.toList).getD w.settingsPath

/-- The settings that an invocation runs with. -/
def settings (w : World) (i : CommandLine.Invocation) : Except Failure Settings := do
  let path := w.settingsPathFor i
  let s ← Settings.resolve path (w.settingsText path) w.environment i
  s.check.mapError SettingsError.failure
  return s

end World

end QueryGate
