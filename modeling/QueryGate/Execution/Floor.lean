import QueryGate.Execution.Script

/-!
# The worker floor

Units of work wait for one of a fixed number of workers, talk to the database, and give their
worker back when they are done. Each unit has a caller with a deadline. The caller leaves with the
unit's answer or, once the deadline has passed, without it; from then on the unit is *abandoned*.
An abandoned unit that still waits for a worker never reaches the database. One that waits at the
database keeps its worker until it has let go of its statement, although its caller has left.

`Floor.step` says what each event does to the floor, and refuses an event that cannot happen in
its state. The events may come in any order; `Timeline` puts them on a clock.
-/

namespace QueryGate

/-- What a unit of work is doing. -/
inductive Phase where
  /-- Waits for a worker. -/
  | queued
  /-- Has a worker and has not begun. -/
  | ready
  /-- Has a worker and waits for the database. -/
  | waiting
  /-- Has a worker and lets go of its abandoned statement. -/
  | cleaning
  /-- Gave its worker back. -/
  | finished
  deriving DecidableEq, Repr

/-- The unit holds a worker. -/
def Phase.holdsWorker : Phase → Bool
  | .queued => false
  | .ready => true
  | .waiting => true
  | .cleaning => true
  | .finished => false

/-- A unit of work. -/
structure WorkUnit where
  request : Request
  phase : Phase := .queued
  /-- The unit's own answer, once it has one. -/
  reply? : Option Reply := none
  /-- With what the caller left, once it has. -/
  ending? : Option Ending := none

namespace WorkUnit

/-- The caller left without the answer. -/
def abandoned (u : WorkUnit) : Bool :=
  match u.ending? with
  | some .timedOut => true
  | _ => false

end WorkUnit

/-- What a unit reports that stopped because its caller had left. -/
def abandonedFailure : Failure := ⟨.query, "Unit of work abandoned after deadline"⟩

/-- The state of the floor. Units are known by their place in the order of arrival. -/
structure Floor where
  /-- The number of workers. -/
  size : Nat
  /-- The workers that no unit holds. -/
  idle : Nat
  units : List WorkUnit := []
  /-- The statements that reached the database, each with its unit if it came from one. -/
  calls : List (Option Nat × Sql) := []
  /-- How many units let go of their statement because their caller had left. -/
  letGo : Nat := 0

/-- What can happen on the floor. -/
inductive FloorEvent where
  /-- A caller hands in a unit. -/
  | arrive (request : Request)
  /-- A unit gets a worker. -/
  | take (unit : Nat)
  /-- A unit that has a worker goes to the database. -/
  | begin (unit : Nat)
  /-- The database answers a unit. -/
  | answer (unit : Nat)
  /-- A unit at the database notices that its caller has left. -/
  | notice (unit : Nat)
  /-- An abandoned unit has let go of its statement. -/
  | release (unit : Nat)
  /-- A caller leaves with the answer of its unit. -/
  | collect (unit : Nat)
  /-- A caller's deadline passes. -/
  | expire (unit : Nat)
  /-- A statement outside the floor reaches the database. -/
  | admin (sql : Sql)
  deriving DecidableEq, Repr

namespace Floor

/-- A floor of `n` workers, but at least one, with no units. -/
def ofSize (n : Nat) : Floor := { size := max 1 n, idle := max 1 n }

/-- The units that hold a worker. -/
def holders (f : Floor) : Nat := f.units.countP (·.phase.holdsWorker)

/-- The state after unit `i` became `u`. -/
def put (f : Floor) (i : Nat) (u : WorkUnit) : Floor := { f with units := f.units.set i u }

/-- Unit `i` ends with a reply of its own and gives its worker back. -/
def finish (f : Floor) (i : Nat) (u : WorkUnit) (reply : Reply) : Floor :=
  { f.put i { u with phase := .finished, reply? := some reply } with idle := f.idle + 1 }

/-- What an event does to the floor; `none` if it cannot happen now. -/
def step (script : Script) (f : Floor) : FloorEvent → Option Floor
  | .arrive request => some { f with units := f.units ++ [{ request }] }
  | .take i =>
    match f.units[i]? with
    | some u =>
      if u.phase = .queued ∧ 0 < f.idle then
        some { f.put i { u with phase := .ready } with idle := f.idle - 1 }
      else none
    | none => none
  | .begin i =>
    match f.units[i]? with
    | some u =>
      if u.phase ≠ .ready then none
      else if u.abandoned then some (f.finish i u (.error abandonedFailure))
      else
        let called := { f with calls := f.calls ++ [(some i, u.request.sql)] }
        if script.waits u.request.sql then some (called.put i { u with phase := .waiting })
        else some (called.finish i u (script.reply u.request.sql))
    | none => none
  | .answer i =>
    match f.units[i]? with
    | some u =>
      if u.phase = .waiting ∧ ¬ u.abandoned then
        some (f.finish i u (script.reply u.request.sql))
      else none
    | none => none
  | .notice i =>
    match f.units[i]? with
    | some u =>
      if u.phase = .waiting ∧ u.abandoned then some (f.put i { u with phase := .cleaning })
      else none
    | none => none
  | .release i =>
    match f.units[i]? with
    | some u =>
      if u.phase = .cleaning then
        some { f.finish i u (.error abandonedFailure) with letGo := f.letGo + 1 }
      else none
    | none => none
  | .collect i =>
    match f.units[i]? with
    | some u =>
      match u.ending?, u.reply? with
      | none, some reply => some (f.put i { u with ending? := some (.answered reply) })
      | _, _ => none
    | none => none
  | .expire i =>
    match f.units[i]? with
    | some u =>
      if u.ending?.isNone then some (f.put i { u with ending? := some .timedOut })
      else none
    | none => none
  | .admin sql => some { f with calls := f.calls ++ [(none, sql)] }

/-- Events one after another; `none` if one of them cannot happen. -/
def steps (script : Script) (f : Floor) : List FloorEvent → Option Floor
  | [] => some f
  | e :: es => (f.step script e).bind (·.steps script es)

end Floor

end QueryGate
