import QueryGate.CommandLine.Basic
import QueryGate.Environment.Basic
import QueryGate.Settings.File

/-!
# Where settings come from

The settings of a run are those of the settings file, overridden by the environment, overridden by
the command line. Each source is applied in turn, and the first that is faulty ends this.
-/

namespace QueryGate

/-- What was found at the path of the settings file. -/
inductive SettingsText where
  | absent
  | unreadable (reason : String)
  | found (text : List Char)
  deriving DecidableEq, Repr

namespace Settings

/-- A failure of the settings. -/
def unusable (detail : String) : Failure := ⟨.config, detail⟩

/-- The settings of a file at a path. Without a file they are the defaults. -/
def ofFile (path : List Char) : SettingsText → Except Failure Settings
  | .absent => .ok {}
  | .unreadable reason => .error (unusable ("Failed to read config file: " ++ reason))
  | .found text =>
    match ofText? text with
    | some s => .ok s
    | none => .error (unusable ("Configuration error in " ++ String.ofList path ++ ":"))

/-- The settings with the environment's overrides. -/
def withEnvironment (e : Environment) (s : Settings) : Except Failure Settings :=
  match s.applyEnvironment e.get? with
  | (s', none) => .ok s'
  | (_, some error) => .error error.failure

/-- The settings of a file and an environment. -/
def load (path : List Char) (file : SettingsText) (e : Environment) : Except Failure Settings :=
  ofFile path file >>= withEnvironment e

/-- The settings with the overrides of the command line. -/
def withInvocation (i : CommandLine.Invocation) (s : Settings) : Except Failure Settings :=
  (i.applyTo s).mapError SettingsError.failure

/-- The settings from all sources, before they are checked. -/
def resolve (path : List Char) (file : SettingsText) (e : Environment)
    (i : CommandLine.Invocation) : Except Failure Settings :=
  load path file e >>= withInvocation i

end Settings

end QueryGate
