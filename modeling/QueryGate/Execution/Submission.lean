import QueryGate.Admission.Gate
import QueryGate.Execution.Outcome
import QueryGate.Failure

/-!
# Submitted statements

A submitted statement is refused at the gate, or it becomes one request to the database: to run it,
or, for a statement that begins with `EXPLAIN`, to probe the plan of what stands behind. However
the request ends, its ending is turned into the outcome that the caller sees.
-/

namespace QueryGate

/-- What is asked of the database. Both kinds are carried out in a transaction that is rolled
back. -/
inductive Request where
  /-- Run the statement, after probing its plan. -/
  | run (sql : Sql)
  /-- Probe the plan of the statement, which is not run. -/
  | probe (sql : Sql)
  deriving DecidableEq, Repr

namespace Request

/-- The text that the database is given. -/
def sql : Request → Sql
  | .run sql => sql
  | .probe sql => sql

/-- The request that an admitted statement stands for. -/
def ofAdmitted (s : Sql) : Request :=
  match s.splitExplain with
  | some (_, inner) => .probe inner
  | none => .run s

/-- The request for the plan of an admitted statement, whether or not it begins with `EXPLAIN`. -/
def planOf (s : Sql) : Request :=
  match s.splitExplain with
  | some (_, inner) => .probe inner
  | none => .probe s

end Request

/-- Plan steps shown as the rows of a result. The columns are those of the first step. -/
def StatementRun.ofPlan (plan : Plan) : StatementRun where
  plan := plan
  result := { columns := (plan.head?.map Record.labels).getD [], rows := plan }

/-- What the caller of a request is shown of the database's answer. -/
def Request.present : Request → StatementRun → StatementRun
  | .run _, answer => answer
  | .probe _, answer => .ofPlan answer.plan

/-- A database's answer to a request. -/
abbrev Reply := Except Failure StatementRun

/-- How a request ended for its caller. -/
inductive Ending where
  | answered (reply : Reply)
  /-- The deadline passed before the answer. -/
  | timedOut

/-- What a failure reports to the caller of a statement: for a failed query, the database's own
message. -/
def Failure.report (f : Failure) : String :=
  match f.kind with
  | .query => f.detail
  | _ => f.message

/-- The outcome of an admitted statement. -/
def Outcome.ofEnding (submitted processed : Sql) (request : Request) (ending : Ending)
    (elapsed : Nat) : Outcome :=
  match ending with
  | .answered (.ok run) => .success submitted processed (request.present run) elapsed
  | .answered (.error failure) => .fault submitted failure.report elapsed
  | .timedOut => .timeout submitted elapsed

/-- The answer to a request for a plan. -/
def PlanAnswer.ofEnding : Ending → PlanAnswer
  | .answered (.ok run) => .plan run.plan
  | .answered (.error failure) => .failed (faultMessage failure.report)
  | .timedOut => .failed timeoutMessage

/-- A statement at the gate. -/
inductive Submission where
  | refused (reason : Refusal)
  | admitted (processed : Sql) (request : Request)
  deriving DecidableEq, Repr

namespace Submission

/-- The request to the database, if the statement was admitted. -/
def request? : Submission → Option Request
  | .refused _ => none
  | .admitted _ request => some request

section

variable {m : Type → Type} [Monad m]

/-- The outcome of the statement, which asks for its request if it was admitted and for nothing if
it was refused. `ask` tells how a request ended and in what time. -/
def outcomeIn (submitted : Sql) (s : Submission) (ask : Request → m (Ending × Nat)) : m Outcome :=
  match s with
  | .refused reason => pure (.refused submitted reason.message)
  | .admitted processed request => do
    let (ending, elapsed) ← ask request
    return .ofEnding submitted processed request ending elapsed

/-- The answer to a request for a plan, which is asked for likewise. -/
def planAnswerIn (s : Submission) (ask : Request → m (Ending × Nat)) : m PlanAnswer :=
  match s with
  | .refused reason => pure (.failed reason.message)
  | .admitted _ request => do
    let (ending, _) ← ask request
    return .ofEnding ending

end

/-- The outcome of the statement, given how its request ended and in what time. -/
def outcome (submitted : Sql) (s : Submission) (ended : Request → Ending × Nat) : Outcome :=
  Id.run (s.outcomeIn submitted fun request => pure (ended request))

end Submission

namespace Gate

/-- The statement as submitted for execution. -/
def submit (g : Gate) (p : Privilege) (sql : Sql) : Submission :=
  match g.judge p sql with
  | .rejected reason => .refused reason
  | .accepted s => .admitted s (.ofAdmitted s)

/-- The statement as submitted for its plan. -/
def submitPlan (g : Gate) (p : Privilege) (sql : Sql) : Submission :=
  match g.judge p sql with
  | .rejected reason => .refused reason
  | .accepted s => .admitted s (.planOf s)

section

variable {m : Type → Type} [Monad m]

/-- Executes a statement. What the database is asked for happens in `m`. -/
def executeIn (g : Gate) (ask : Request → m (Ending × Nat)) (p : Privilege) (sql : Sql) :
    m Outcome :=
  (g.submit p sql).outcomeIn sql ask

/-- Explains a statement without running it. -/
def explainIn (g : Gate) (ask : Request → m (Ending × Nat)) (p : Privilege) (sql : Sql) :
    m PlanAnswer :=
  (g.submitPlan p sql).planAnswerIn ask

end

/-- Executes a statement with a database that ends each request in its own way and time. -/
def execute (g : Gate) (ended : Request → Ending × Nat) (p : Privilege) (sql : Sql) : Outcome :=
  Id.run (g.executeIn (fun request => pure (ended request)) p sql)

/-- Explains a statement without running it, with such a database. -/
def explain (g : Gate) (ended : Request → Ending × Nat) (p : Privilege) (sql : Sql) : PlanAnswer :=
  Id.run (g.explainIn (fun request => pure (ended request)) p sql)

end Gate

end QueryGate
