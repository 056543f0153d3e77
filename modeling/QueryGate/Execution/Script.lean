import QueryGate.Execution.Submission
import QueryGate.Text.Fragment

/-!
# Scripted databases

A scripted database answers a statement by the first rule whose fragment stands in it, possibly
after waits; a statement that no rule matches is echoed. Faults replace what would have been a
success. A statement that is abandoned in a wait is let go only after a cleanup time.
-/

namespace QueryGate

open Text

/-- A scripted answer. -/
inductive Response where
  | run (answer : StatementRun)
  | fail (message : String)
  /-- Waits some milliseconds, then goes on. -/
  | wait (ms : Nat) (next : Response)
  deriving Repr

namespace Response

/-- The milliseconds before the answer. -/
def delay : Response → Nat
  | .run _ => 0
  | .fail _ => 0
  | .wait ms next => ms + next.delay

/-- There is a wait before the answer, if only for no time. -/
def waits : Response → Bool
  | .run _ => false
  | .fail _ => false
  | .wait _ _ => true

/-- The answer at the end of all waits. -/
def reply : Response → Reply
  | .run answer => .ok answer
  | .fail message => .error ⟨.query, message⟩
  | .wait _ next => next.reply

end Response

/-- A scripted database. -/
structure Script where
  rules : List (List Char × Response) := []
  /-- Failures in place of successful answers. -/
  faults : List (List Char × Failure) := []
  /-- The milliseconds for which an abandoned statement lingers. -/
  cleanup : Nat := 0

/-- A plan of one step that reads a whole table. -/
def samplePlan : Plan :=
  [⟨[("id", .int 1), ("select_type", .text "SIMPLE"), ("table", .text "sample_customers"),
     ("type", .text "ALL"), ("key", .null), ("rows", .uint 1000), ("Extra", .null)]⟩]

/-- The answer to a statement that no rule matches: one row that repeats it. -/
def echo (sql : Sql) : StatementRun where
  plan := samplePlan
  result :=
    { columns := ["result"]
      rows := [⟨[("result", .text ("Mock result for: " ++ String.ofList sql))]⟩] }

namespace Script

/-- The response to a statement. -/
def response (s : Script) (sql : Sql) : Response :=
  match s.rules.find? (occurs ·.1 sql) with
  | some (_, response) => response
  | none => .run (echo sql)

/-- The milliseconds that the answer to a statement takes. -/
def delay (s : Script) (sql : Sql) : Nat := (s.response sql).delay

/-- The answer to a statement is waited for. -/
def waits (s : Script) (sql : Sql) : Bool := (s.response sql).waits

/-- The answer to a statement. -/
def reply (s : Script) (sql : Sql) : Reply :=
  match (s.response sql).reply with
  | .ok answer =>
    match s.faults.find? (occurs ·.1 sql) with
    | some (_, failure) => .error failure
    | none => .ok answer
  | .error failure => .error failure

end Script

end QueryGate
