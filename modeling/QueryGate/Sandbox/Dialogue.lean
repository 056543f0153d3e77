import QueryGate.Connection.Backend
import QueryGate.Execution.Submission
import QueryGate.Power

/-!
# Talking to a database

A unit of work issues commands to its connection one after another and decides by each answer what
comes next. It is written as a *dialogue*: the next command, with a continuation for every answer
that the database may give. The same dialogue can so be held with a real database, a scripted one,
or one that fails wherever a proof wants it to.

`runUnit` and `probeUnit` are the two units of work. Both begin a transaction and, once it has
begun, roll it back exactly once, as the last thing they do.
-/

namespace QueryGate

/-- A command on a connection. -/
inductive Command where
  /-- Limit the time of statements, in milliseconds. -/
  | limitTime (ms : Nat)
  /-- Ask for the server's number of this connection. -/
  | connectionNumber
  | begin
  /-- Ask for the plan of a statement. -/
  | probe (sql : Sql)
  /-- Run a statement. -/
  | run (sql : Sql)
  /-- Ask for the labels of a statement's rows. -/
  | describe (sql : Sql)
  | rollback
  deriving DecidableEq, Repr

namespace Command

/-- What the database gives when the command succeeds. -/
def Answer : Command → Type
  | .limitTime _ => Unit
  | .connectionNumber => Nat
  | .begin => Unit
  | .probe _ => Plan
  | .run _ => List Record
  | .describe _ => List String
  | .rollback => Unit

/-- A command's answer, or the database's own words of why it failed. -/
abbrev Result (c : Command) : Type := Except String c.Answer

/-- The longest time of a statement that a server takes. -/
def maxTime : Nat := twoTo 32 - 1

/-- The command as it is sent to a backend. -/
def text (b : Backend) : Command → Sql
  | .limitTime ms =>
    "SET SESSION MAX_EXECUTION_TIME = ".toList ++ Text.natText (min ms maxTime)
  | .connectionNumber => "SELECT CONNECTION_ID()".toList
  | .begin => "BEGIN".toList
  | .probe sql => b.planProbe sql
  | .run sql => sql
  | .describe sql => "PREPARE ".toList ++ sql
  | .rollback => "ROLLBACK".toList

end Command

/-- A conversation that ends with an `α`. -/
inductive Dialogue (α : Type) where
  | done (a : α)
  | issue (c : Command) (next : c.Result → Dialogue α)

namespace Dialogue

variable {α σ : Type}

/-- Holds the dialogue with a database that answers every command: the commands that were issued,
the end of the dialogue, and the state of the database. -/
def play (respond : σ → (c : Command) → c.Result × σ) : Dialogue α → σ → List Command × α × σ
  | .done a, s => ([], a, s)
  | .issue c next, s =>
    let (result, s) := respond s c
    let (issued, a, s) := play respond (next result) s
    (c :: issued, a, s)

/-- Holds the dialogue with a database that may leave a command unanswered: the end of the dialogue
or that command. -/
def converse (respond : σ → (c : Command) → Option c.Result × σ) :
    Dialogue α → σ → Except Command α × σ
  | .done a, s => (.ok a, s)
  | .issue c next, s =>
    match respond s c with
    | (some result, s) => converse respond (next result) s
    | (none, s) => (.error c, s)

end Dialogue

/-- The failure to get a connection. -/
def acquireFailure (reason : String) : Failure :=
  ⟨.connection, "Failed to acquire connection: " ++ reason⟩

/-- The failure of a statement, in the database's own words. -/
def queryFailure (report : String) : Failure := ⟨.query, report⟩

/-- Rolls back and ends with this reply, whatever becomes of the rollback. -/
def closing (reply : Reply) : Dialogue Reply := .issue .rollback fun _ => .done reply

/-- Probes the plan of a statement, runs it, and asks for the labels of its rows if there are
none. -/
def runUnit (sql : Sql) : Dialogue Reply :=
  .issue .begin fun
    | .error report => .done (.error (queryFailure report))
    | .ok () => .issue (.probe sql) fun
      | .error report => closing (.error (queryFailure report))
      | .ok plan => .issue (.run sql) fun
        | .error report => closing (.error (queryFailure report))
        | .ok [] => .issue (.describe sql) fun described =>
          let columns := match described with
            | .ok labels => labels
            | .error _ => []
          closing (.ok ⟨plan, ⟨columns, []⟩⟩)
        | .ok (row :: rows) => closing (.ok ⟨plan, ⟨row.labels, row :: rows⟩⟩)

/-- Probes the plan of a statement. -/
def probeUnit (sql : Sql) : Dialogue Reply :=
  .issue .begin fun
    | .error report => .done (.error (queryFailure report))
    | .ok () => .issue (.probe sql) fun
      | .error report => closing (.error (queryFailure report))
      | .ok plan => closing (.ok ⟨plan, {}⟩)

/-- The unit of work for a request. -/
def Request.unit : Request → Dialogue Reply
  | .run sql => runUnit sql
  | .probe sql => probeUnit sql

/-- The unit on a server: it limits the time of statements and learns the number of its connection
before it begins. -/
def timedUnit (ms : Nat) (r : Request) : Dialogue Reply :=
  .issue (.limitTime ms) fun
    | .error report => .done (.error (queryFailure report))
    | .ok () => .issue .connectionNumber fun
      | .error report => .done (.error (queryFailure report))
      | .ok _ => r.unit

end QueryGate
