import QueryGate.History.Log
import QueryGate.Power

/-!
# The schema of the history

The history lives in a database file: a table of schema versions, the log, and an index on it.
`Migration` brings a file to the supported version, statement by statement. Every statement takes
effect at once and stays in effect when a later one fails, so a migration that is cut off can be
taken up from any point.
-/

namespace QueryGate

/-- What stands under the name of the version table. -/
inductive VersionObject where
  | absent
  /-- A table with its versions, or without a column for them. -/
  | table (versions? : Option (List Int))
  /-- A view that shows versions, or has no column for them. -/
  | view (versions? : Option (List Int))
  | index
  deriving DecidableEq, Repr

/-- What stands under the name of the log's table. -/
inductive LogObject where
  | absent
  | table (log : Log)
  /-- A table or view without the columns of a log. -/
  | foreign
  | index
  deriving DecidableEq, Repr

/-- What a database file holds of the history. -/
structure Schema where
  versions : VersionObject := .absent
  log : LogObject := .absent
  /-- The index on the log is there. -/
  indexed : Bool := false
  deriving DecidableEq, Repr

/-- Why a migration stops. -/
inductive MigrationError where
  /-- The file was written by a later program. -/
  | tooNew (version : Int)
  /-- There is no way from the version before this one. -/
  | unknownVersion (version : Int)
  /-- The database refused a statement. -/
  | refused (doing reason : String)
  deriving DecidableEq, Repr

/-- The version that this program writes. -/
def supportedVersion : Int := 1

/-- The wording of an error. -/
def MigrationError.message : MigrationError → String
  | .tooNew version =>
    "Database schema version (" ++ String.ofList (Text.intText version) ++
      ") is newer than supported version (" ++ String.ofList (Text.intText supportedVersion) ++
      "). Please upgrade sql-sandbox to the latest version."
  | .unknownVersion version =>
    "Unknown migration version: " ++ String.ofList (Text.intText version)
  | .refused doing reason =>
    "Failed to " ++ doing ++ ": error returned from database: (code: 1) " ++ reason

/-- The next statement of a migration. -/
inductive Migration where
  /-- Make the version table unless it is there. -/
  | makeVersions
  /-- Read the highest version. -/
  | readVersion
  /-- Make the log unless it is there. -/
  | makeLog
  /-- Make the index of the log unless it is there. -/
  | makeIndex
  /-- Note that the supported version is reached. -/
  | noteVersion
  deriving DecidableEq, Repr

namespace Migration

/-- The statements that may follow, with this one. -/
def remaining : Migration → Nat
  | .makeVersions => 5
  | .readVersion => 4
  | .makeLog => 3
  | .makeIndex => 2
  | .noteVersion => 1

/-- The highest of the versions; zero when there is none. -/
def highest (versions : List Int) : Int := versions.max?.getD 0

/-- What to do next in a file whose highest version this is. Versions are 32-bit numbers. -/
def afterVersion (version : Int) : Except MigrationError (Option Migration) :=
  if version < -twoTo 31 ∨ twoTo 31 ≤ version then
    .error (.refused "get schema version" "out of range integral type conversion attempted")
  else if supportedVersion < version then .error (.tooNew version)
  else if version = supportedVersion then .ok none
  else if version + 1 = supportedVersion then .ok (some .makeLog)
  else .error (.unknownVersion (version + 1))

/-- Carries out one statement: the file after it, and the statement that follows, if any. A
statement that fails changes nothing. -/
def step (s : Schema) : Migration → Schema × Except MigrationError (Option Migration)
  | .makeVersions =>
    match s.versions with
    | .absent => ({ s with versions := .table (some []) }, .ok (some .readVersion))
    | .index =>
      (s, .error (.refused "create schema_versions table"
        "there is already an index named schema_versions"))
    | .table _ => (s, .ok (some .readVersion))
    | .view _ => (s, .ok (some .readVersion))
  | .readVersion =>
    match s.versions with
    | .table (some versions) => (s, afterVersion (highest versions))
    | .view (some versions) => (s, afterVersion (highest versions))
    | .absent =>
      (s, .error (.refused "get schema version" "no such table: schema_versions"))
    | _ => (s, .error (.refused "get schema version" "no such column: version"))
  | .makeLog =>
    match s.log with
    | .absent => ({ s with log := .table {} }, .ok (some .makeIndex))
    | .index =>
      (s, .error (.refused "create query_history table"
        "there is already an index named query_history"))
    | .table _ => (s, .ok (some .makeIndex))
    | .foreign => (s, .ok (some .makeIndex))
  | .makeIndex =>
    if s.indexed then (s, .ok (some .noteVersion))
    else
      match s.log with
      | .table _ => ({ s with indexed := true }, .ok (some .noteVersion))
      | .foreign => (s, .error (.refused "create history index" "no such column: user_id"))
      | _ => (s, .error (.refused "create history index" "no such table: main.query_history"))
  | .noteVersion =>
    match s.versions with
    | .table (some versions) =>
      if versions.contains supportedVersion then
        (s, .error (.refused "record migration"
          "UNIQUE constraint failed: schema_versions.version"))
      else ({ s with versions := .table (some (versions ++ [supportedVersion])) }, .ok none)
    | .view _ =>
      (s, .error (.refused "record migration"
        "cannot modify schema_versions because it is a view"))
    | .table none =>
      (s, .error (.refused "record migration"
        "table schema_versions has no column named version"))
    | _ => (s, .error (.refused "record migration" "no such table: schema_versions"))

theorem remaining_lt {s t : Schema} {m next : Migration} (h : m.step s = (t, .ok (some next))) :
    next.remaining < m.remaining := by
  have after (v : Int) : ∀ n, afterVersion v = .ok (some n) → n = .makeLog := by
    intro n hn
    unfold afterVersion at hn
    repeat' split at hn
    all_goals simp_all
  cases m <;> simp only [step] at h <;> repeat' split at h
  all_goals first
    | (simp only [Prod.mk.injEq, Except.ok.injEq, Option.some.injEq] at h
       obtain ⟨_, rfl⟩ := h
       decide)
    | (simp only [Prod.mk.injEq] at h
       rw [after _ _ h.2]
       decide)
    | simp at h

/-- Carries out the migration from a statement on, to its end or to the first error. -/
def run (s : Schema) (m : Migration) : Schema × Except MigrationError Unit :=
  match _h : m.step s with
  | (t, .ok (some next)) => run t next
  | (t, .ok none) => (t, .ok ())
  | (t, .error e) => (t, .error e)
termination_by m.remaining
decreasing_by exact remaining_lt _h

/-- Carries out at most `n` statements, as when the program is stopped. -/
def interrupted : Nat → Schema → Migration → Schema
  | 0, s, _ => s
  | n + 1, s, m =>
    match m.step s with
    | (t, .ok (some next)) => interrupted n t next
    | (t, _) => t

end Migration

/-- Brings a file to the supported version. -/
def Schema.migrate (s : Schema) : Schema × Except MigrationError Unit :=
  Migration.run s .makeVersions

end QueryGate
