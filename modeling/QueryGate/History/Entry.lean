import QueryGate.Execution.Outcome
import QueryGate.History.Instant
import QueryGate.Power

/-!
# Entries of the history

One entry is kept for each statement that a user submitted, with the submitted text and what came
of it. Stored numbers are signed; a larger count is held at the largest of them.
-/

namespace QueryGate

/-- The largest number that an entry holds. -/
def maxStored : Nat := twoTo 63 - 1

/-- An attempt to be recorded. -/
structure Attempt where
  userId : Int
  sql : Sql
  status : Status := .success
  elapsed : Option Int := none
  rowsScanned : Option Int := none
  rowsReturned : Option Int := none
  indexUsed : Option String := none
  plan : Option String := none
  message : Option String := none
  deriving DecidableEq, Repr

/-- A count as it is stored. -/
def stored (n : Nat) : Int := min n maxStored

/-- The attempt that user `userId` made, with its outcome. -/
def Attempt.ofOutcome (userId : Int) (o : Outcome) : Attempt :=
  let base : Attempt :=
    { userId, sql := o.submitted, status := o.status, elapsed := o.elapsed?.map stored,
      message := o.message? }
  match o with
  | .success _ _ run _ =>
    { base with
      rowsReturned := some (stored run.result.rowCount)
      rowsScanned := run.plan.rowsScanned.map stored
      indexUsed := run.plan.indexUsed
      plan := some run.plan.text }
  | _ => base

/-- A recorded attempt. `createdAt` is the time of recording. -/
structure Entry where
  id : Nat
  attempt : Attempt
  createdAt : Instant
  deriving DecidableEq, Repr

/-- The entry in structured output. -/
def Entry.toJson (e : Entry) : Json :=
  let a := e.attempt
  .obj
    [("id", .ofNat e.id),
     ("user_id", .int a.userId),
     ("sql_text", .str (String.ofList a.sql)),
     ("status", .str a.status.name),
     ("execution_time_ms", .ofOption .int a.elapsed),
     ("rows_scanned", .ofOption .int a.rowsScanned),
     ("rows_returned", .ofOption .int a.rowsReturned),
     ("index_used", .ofOption .str a.indexUsed),
     ("explain_result", .ofOption .str a.plan),
     ("error_message", .ofOption .str a.message),
     ("created_at", .str (String.ofList (Instant.text e.createdAt)))]

end QueryGate
