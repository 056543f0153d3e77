import QueryGate.Admission.AllowList
import QueryGate.Connection.Settings
import QueryGate.Power
import QueryGate.Text.Integer

/-!
# Settings

The settings of the program with their defaults, the checks on them, and the environment variables
that override them. Settings come from four sources; the later overrides the earlier: defaults, the
settings file, the environment, the command line.
-/

namespace QueryGate

open Text

/-- What bounds the statements that are run. -/
structure Limits where
  /-- The row limit put on a `SELECT` that has none. -/
  maxRows : Nat := 1000
  /-- The deadline of a statement in seconds. -/
  timeoutSecs : Nat := 30
  /-- The number of statements that run at once. -/
  workers : Nat := 8
  /-- The tables that standard callers may read. -/
  allowedTables : List String := AllowList.sampleTables
  /-- The most statements of one comparison. -/
  maxCompare : Nat := 5
  deriving DecidableEq, Repr

/-- Where and how the history is kept. -/
structure HistorySettings where
  enabled : Bool := true
  /-- The file of the history, if it is not the usual one. -/
  path : Option String := none
  /-- The number of newest entries kept for each user. -/
  keepPerUser : Nat := 1000
  deriving DecidableEq, Repr

/-- All settings. -/
structure Settings where
  limits : Limits := {}
  database : Connection := {}
  history : HistorySettings := {}
  deriving DecidableEq, Repr

/-- What makes settings unusable. -/
inductive SettingsError where
  | notPositive (name : String)
  | tooManyWorkers (workers poolSize : Nat)
  | badVariable (name : String) (value : List Char)
  | badConnection (error : ConnectionError)
  deriving DecidableEq, Repr

/-- The wording of an error. -/
def SettingsError.message : SettingsError → String
  | .notPositive name => name ++ " must be greater than zero"
  | .tooManyWorkers workers poolSize =>
    "workers (" ++ String.ofList (natText workers) ++ ") must be less than pool_size (" ++
      String.ofList (natText poolSize) ++ ")"
  | .badVariable name value => name ++ " has an invalid value: '" ++ String.ofList value ++ "'"
  | .badConnection error => error.message

/-- The error as a failure of the settings. -/
def SettingsError.failure (e : SettingsError) : Failure := ⟨.config, e.message⟩

/-- The bounds of numbers of 16, 32 and 64 bits. -/
def bound16 : Nat := twoTo 16
def bound32 : Nat := twoTo 32
def bound64 : Nat := twoTo 64

namespace Settings

/-- The settings in structured output. -/
def toJson (s : Settings) : Json := .obj
  [("sandbox", .obj
     [("max_rows", .ofNat s.limits.maxRows),
      ("timeout_secs", .ofNat s.limits.timeoutSecs),
      ("workers", .ofNat s.limits.workers),
      ("allowed_tables", .arr (s.limits.allowedTables.map .str)),
      ("max_compare", .ofNat s.limits.maxCompare)]),
   ("database", s.database.toJson),
   ("history", .obj
     [("enabled", .bool s.history.enabled),
      ("path", .ofOption .str s.history.path),
      ("keep_per_user", .ofNat s.history.keepPerUser)])]

/-- A setting that must not be zero. -/
def positive (name : String) (n : Nat) : Except SettingsError Unit :=
  if n = 0 then .error (.notPositive name) else .ok ()

/-- The first reason why the program cannot run with the settings. Each worker holds a connection
and an abandoned statement is stopped over a spare one, so the pool must be larger than the
number of workers. -/
def check (s : Settings) : Except SettingsError Unit := do
  positive "max_rows" s.limits.maxRows
  positive "timeout_secs" s.limits.timeoutSecs
  positive "workers" s.limits.workers
  positive "max_compare" s.limits.maxCompare
  positive "pool_size" s.database.poolSize
  if s.database.poolSize ≤ s.limits.workers then
    throw (.tooManyWorkers s.limits.workers s.database.poolSize)

/-- Puts another database in place; the size of the pool stays. -/
def useDatabase (s : Settings) (url : List Char) : Except SettingsError Settings :=
  match Connection.ofString url with
  | .ok c => .ok { s with database := { c with poolSize := s.database.poolSize } }
  | .error e => .error (.badConnection e)

/-! ### Environment -/

/-- A number in a variable, with blanks around it allowed. -/
def readVariable (name : String) (bound : Nat) (value : List Char) : Except SettingsError Nat :=
  match readNat? bound (trim value) with
  | some n => .ok n
  | none => .error (.badVariable name value)

/-- The variables that override settings, in the order in which they are applied. -/
def overrides : List (String × (Settings → List Char → Except SettingsError Settings)) :=
  [("SANDBOX_MAX_ROWS", fun s v => do
     let n ← readVariable "SANDBOX_MAX_ROWS" bound32 v
     return { s with limits := { s.limits with maxRows := n } }),
   ("SANDBOX_TIMEOUT_SECS", fun s v => do
     let n ← readVariable "SANDBOX_TIMEOUT_SECS" bound64 v
     return { s with limits := { s.limits with timeoutSecs := n } }),
   ("SANDBOX_WORKERS", fun s v => do
     let n ← readVariable "SANDBOX_WORKERS" bound64 v
     return { s with limits := { s.limits with workers := n } }),
   ("DATABASE_URL", fun s v => s.useDatabase v)]

/-- Applies the given variables one after the other. The first that cannot be read ends this; those
before it stay applied. -/
def applyVariables (lookup : String → Option (List Char)) :
    List (String × (Settings → List Char → Except SettingsError Settings)) → Settings →
    Settings × Option SettingsError
  | [], s => (s, none)
  | (name, override) :: rest, s =>
    match lookup name with
    | none => applyVariables lookup rest s
    | some v =>
      match override s v with
      | .ok s => applyVariables lookup rest s
      | .error e => (s, some e)

/-- The settings with the environment's overrides, and what could not be read of them. -/
def applyEnvironment (lookup : String → Option (List Char)) (s : Settings) :
    Settings × Option SettingsError :=
  applyVariables lookup overrides s

end Settings

end QueryGate
