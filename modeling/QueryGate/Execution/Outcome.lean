import QueryGate.Admission.Scan
import QueryGate.Value.Plan

/-!
# Outcomes of statements

Whatever stage a statement stops at, its caller gets one outcome: rows and a plan, a message, or
the news that the deadline passed. Only an outcome of a statement that was handed to the database
carries a time.
-/

namespace QueryGate

/-- What a statement produced inside its transaction. -/
structure StatementRun where
  plan : Plan := []
  result : RowSet := {}
  deriving DecidableEq, Repr

/-- How a recorded statement ended. -/
inductive Status where
  | success
  | error
  | timeout
  deriving DecidableEq, Repr

namespace Status

def name : Status → String
  | .success => "SUCCESS"
  | .error => "ERROR"
  | .timeout => "TIMEOUT"

/-- The status of a stored word; a word of no status counts as an error. -/
def ofName (s : String) : Status :=
  if s = "SUCCESS" then .success else if s = "TIMEOUT" then .timeout else .error

end Status

/-- The outcome of one statement. `submitted` is the statement as the caller gave it. -/
inductive Outcome where
  /-- The statement ran as `processed`. -/
  | success (submitted processed : Sql) (run : StatementRun) (elapsed : Nat)
  /-- The statement was refused before it reached the database. -/
  | refused (submitted : Sql) (reason : String)
  /-- The database failed the statement with a message of its own. -/
  | fault (submitted : Sql) (report : String) (elapsed : Nat)
  /-- The deadline passed first. -/
  | timeout (submitted : Sql) (elapsed : Nat)
  deriving DecidableEq, Repr

/-- What is reported of a statement whose deadline passed. -/
def timeoutMessage : String := "Query execution timed out"

/-- The report of a database's own message. -/
def faultMessage (report : String) : String := "SQL Error: " ++ report

namespace Outcome

def submitted : Outcome → Sql
  | .success submitted _ _ _ => submitted
  | .refused submitted _ => submitted
  | .fault submitted _ _ => submitted
  | .timeout submitted _ => submitted

def status : Outcome → Status
  | .success .. => .success
  | .refused .. => .error
  | .fault .. => .error
  | .timeout .. => .timeout

def isSuccess : Outcome → Bool
  | .success .. => true
  | _ => false

/-- The time since the statement was dispatched, in milliseconds, if it was. -/
def elapsed? : Outcome → Option Nat
  | .success _ _ _ elapsed => some elapsed
  | .refused .. => none
  | .fault _ _ elapsed => some elapsed
  | .timeout _ elapsed => some elapsed

/-- What went wrong, if anything did. -/
def message? : Outcome → Option String
  | .success .. => none
  | .refused _ reason => some reason
  | .fault _ report _ => some (faultMessage report)
  | .timeout .. => some timeoutMessage

/-- The outcome in structured output. -/
def toJson : Outcome → Json
  | .success submitted processed run elapsed => .obj
      [("status", .str Status.success.name),
       ("original_sql", .str (String.ofList submitted)),
       ("processed_sql", .str (String.ofList processed)),
       ("columns", .arr (run.result.columns.map .str)),
       ("rows", .arr (run.result.rows.map Record.toJson)),
       ("elapsed_ms", .ofNat elapsed),
       ("rows_returned", .ofNat run.result.rowCount),
       ("rows_scanned", .ofOption .ofNat run.plan.rowsScanned),
       ("index_used", .ofOption .str run.plan.indexUsed),
       ("plan_json", .str run.plan.text)]
  | .refused submitted reason => .obj
      [("status", .str Status.error.name),
       ("original_sql", .str (String.ofList submitted)),
       ("message", .str reason),
       ("elapsed_ms", .null)]
  | .fault submitted report elapsed => .obj
      [("status", .str Status.error.name),
       ("original_sql", .str (String.ofList submitted)),
       ("message", .str (faultMessage report)),
       ("elapsed_ms", .ofNat elapsed)]
  | .timeout submitted elapsed => .obj
      [("status", .str Status.timeout.name),
       ("original_sql", .str (String.ofList submitted)),
       ("elapsed_ms", .ofNat elapsed)]

end Outcome

/-- The answer to a request for a plan. -/
inductive PlanAnswer where
  | plan (steps : Plan)
  | failed (message : String)
  deriving DecidableEq, Repr

namespace PlanAnswer

def isSuccess : PlanAnswer → Bool
  | .plan _ => true
  | .failed _ => false

def steps : PlanAnswer → Plan
  | .plan steps => steps
  | .failed _ => []

def message? : PlanAnswer → Option String
  | .plan _ => none
  | .failed message => some message

/-- The answer in structured output. -/
def toJson (a : PlanAnswer) : Json := .obj
  [("success", .bool a.isSuccess),
   ("plan_rows", a.steps.toJson),
   ("index_used", .ofOption .str a.steps.indexUsed),
   ("rows_scanned", .ofOption .ofNat a.steps.rowsScanned),
   ("error_message", .ofOption .str a.message?)]

end PlanAnswer

end QueryGate
