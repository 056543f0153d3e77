import QueryGate.Execution.Timeline
import QueryGate.History.Entry

/-!
# The service

The service takes statements from callers, puts them through the gate and onto the floor, and
records every attempt. Recording is done behind the caller's back: an attempt is pending until a
recorder hands it to the sink, and what the sink says of it reaches nobody. Requests for a plan and
requests that are turned down leave no attempt.
-/

namespace QueryGate

/-- Who submits a statement. -/
structure Caller where
  userId : Int
  privilege : Privilege
  deriving DecidableEq, Repr

/-- Where attempts are recorded. A write may fail. -/
structure Sink (σ : Type) where
  write : Attempt → σ → Option Failure × σ

/-- The attempts that are not recorded yet, and what was recorded. -/
structure Recorder (σ : Type) where
  pending : List Attempt := []
  recorded : σ

namespace Recorder

variable {σ : Type}

/-- An attempt is to be recorded. -/
def note (r : Recorder σ) (a : Attempt) : Recorder σ := { r with pending := r.pending ++ [a] }

/-- Hands one of the pending attempts to the sink. A failure is dropped. -/
def writeAt (sink : Sink σ) (r : Recorder σ) (i : Nat) : Recorder σ :=
  match r.pending[i]? with
  | some a => { pending := r.pending.eraseIdx i, recorded := (sink.write a r.recorded).2 }
  | none => r

/-- Hands all pending attempts to the sink in order. -/
def drain (sink : Sink σ) (r : Recorder σ) : Recorder σ where
  pending := []
  recorded := r.pending.foldl (fun s a => (sink.write a s).2) r.recorded

end Recorder

/-- What the service is set up with. -/
structure ServiceSetup where
  gate : Gate := {}
  pace : Pace := {}
  /-- The most statements of one comparison. -/
  maxCompare : Nat := 5
  /-- Attempts are recorded. -/
  records : Bool := true

/-- The limit on comparisons, which is at least one. -/
def ServiceSetup.compareLimit (s : ServiceSetup) : Nat := max 1 s.maxCompare

/-- A running service. -/
structure Service (σ : Type) where
  timeline : Timeline
  recorder : Recorder σ

/-- The refusal of a comparison without statements. -/
def nothingToCompare : Failure := ⟨.invalidRequest, "At least one SQL query is required"⟩

/-- The refusal of a comparison of too many statements. -/
def tooManyToCompare (limit : Nat) : Failure :=
  ⟨.invalidRequest,
    "At most " ++ String.ofList (Text.natText limit) ++ " queries can be compared at once"⟩

/-- Gives each submission the outcome of its own request, in order. -/
def outcomesOf : List (Sql × Submission) → List (Ending × Nat) → List Outcome
  | [], _ => []
  | (sql, s) :: rest, endings =>
    match s.request?, endings with
    | some _, e :: es => s.outcome sql (fun _ => e) :: outcomesOf rest es
    | _, es => s.outcome sql (fun _ => (.timedOut, 0)) :: outcomesOf rest es

namespace Service

variable {σ : Type} (setup : ServiceSetup)

/-- A service with idle workers. -/
def start (workers : Nat) (recorded : σ) : Service σ where
  timeline := { floor := .ofSize workers }
  recorder := { recorded }

/-- Runs statements side by side, without recording them. -/
def perform (s : Service σ) (p : Privilege) (sqls : List Sql) : List Outcome × Service σ :=
  let submissions := sqls.map fun sql => (sql, setup.gate.submit p sql)
  let (timeline, endings) :=
    s.timeline.perform setup.pace (submissions.filterMap (·.2.request?))
  (outcomesOf submissions endings, { s with timeline })

/-- Notes outcomes for recording, if attempts are recorded. -/
def noteAll (s : Service σ) (user : Int) (outcomes : List Outcome) : Service σ :=
  if setup.records then
    { s with
      recorder := outcomes.foldl (fun r o => r.note (.ofOutcome user o)) s.recorder }
  else s

/-- Runs one statement and notes the attempt. -/
def execute (s : Service σ) (c : Caller) (sql : Sql) : Outcome × Service σ :=
  let (outcome, timeline) :=
    Id.run ((setup.gate.executeIn (Timeline.ask setup.pace) c.privilege sql).run s.timeline)
  (outcome, { s with timeline }.noteAll setup c.userId [outcome])

/-- Probes the plan of a statement. -/
def explain (s : Service σ) (c : Caller) (sql : Sql) : PlanAnswer × Service σ :=
  let (answer, timeline) :=
    Id.run ((setup.gate.explainIn (Timeline.ask setup.pace) c.privilege sql).run s.timeline)
  (answer, { s with timeline })

/-- Runs several statements side by side and notes each attempt. -/
def compare (s : Service σ) (c : Caller) (sqls : List Sql) :
    Except Failure (List Outcome) × Service σ :=
  if sqls.isEmpty then (.error nothingToCompare, s)
  else if setup.compareLimit < sqls.length then
    (.error (tooManyToCompare setup.compareLimit), s)
  else
    let (outcomes, s) := s.perform setup c.privilege sqls
    (.ok outcomes, s.noteAll setup c.userId outcomes)

/-- Sends a statement of an administrator past the gate and the floor. -/
def admin (s : Service σ) (sql : Sql) : Service σ :=
  { s with timeline := s.timeline.happen setup.pace (.admin sql) }

/-- Lets time pass. What is pending is recorded in the meantime. -/
def pass (sink : Sink σ) (s : Service σ) (ms : Nat) : Service σ where
  timeline := s.timeline.pass setup.pace ms
  recorder := s.recorder.drain sink

/-- Ends the service, once everything pending is recorded: what was recorded. -/
def shutdown (sink : Sink σ) (s : Service σ) : σ := (s.recorder.drain sink).recorded

end Service

end QueryGate
