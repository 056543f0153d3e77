/-!
# Connections to a server

A client keeps a pool of connections to a server. Each has the number that the server gave it, and
no number is given twice. A unit of work has a worker and takes one connection for its statements.
When its caller leaves while it works, the unit takes a second connection to have its statement
killed, and closes the first for good; only then does it end and give its worker back. The
connection that it closes is taken out of the pool, which may open another in its place. An
administrator's statement has no worker and takes one connection.

`Connections.step` says what each event does, and refuses an event that cannot happen. Any number
of units may be at work, and their events may come in any order.
-/

namespace QueryGate.Server

/-- Where a unit of work stands. -/
inductive Stage where
  /-- It has a worker and waits for a connection. -/
  | waiting
  /-- It works on a connection, in a transaction or not. -/
  | working (number : Nat) (inTransaction : Bool)
  /-- Its caller left; it waits for a second connection to kill its statement. -/
  | abandoned (number : Nat) (inTransaction : Bool)
  /-- The kill of its statement is sent on the second connection. -/
  | killing (number second : Nat) (inTransaction : Bool)
  /-- It closes its connection. -/
  | closing (number : Nat) (inTransaction : Bool)
  | ended
  deriving DecidableEq, Repr

namespace Stage

/-- The connection that the unit holds for its own statements. -/
def own? : Stage → Option Nat
  | .waiting => none
  | .working n _ => some n
  | .abandoned n _ => some n
  | .killing n _ _ => some n
  | .closing n _ => some n
  | .ended => none

/-- The connection that the unit holds for a kill. -/
def second? : Stage → Option Nat
  | .killing _ m _ => some m
  | _ => none

/-- The connections that the unit holds. -/
def held (s : Stage) : List Nat := s.own?.toList ++ s.second?.toList

/-- The connections of the pool that the unit holds. One that it closes is not of the pool. -/
def pooled : Stage → List Nat
  | .closing _ _ => []
  | s => s.held

/-- The unit holds a worker. -/
def isActive (s : Stage) : Bool := s != .ended

end Stage

/-- A kill of what runs on one connection, sent on another by a unit. -/
structure Kill where
  unit : Nat
  target : Nat
  via : Nat
  deriving DecidableEq, Repr

/-- The connections of a client and the units that use them. -/
structure Connections where
  /-- The most units at work. -/
  workers : Nat
  /-- The most connections at a time. -/
  capacity : Nat
  /-- How many connections the server has accepted; the last has this number. -/
  accepted : Nat := 0
  /-- The connections that nobody holds. -/
  idle : List Nat := []
  /-- The connections that administrators' statements hold. -/
  borrowed : List Nat := []
  /-- The units in order of arrival. -/
  units : List Stage := []
  /-- The kills that were sent. -/
  kills : List Kill := []
  deriving DecidableEq, Repr

/-- How a unit gets a connection. -/
inductive Supply where
  /-- An idle one. -/
  | idle
  /-- A new one, which the server accepts. -/
  | fresh
  /-- A new one, which the server gives up at once. -/
  | refused
  /-- None, because none became free in time. -/
  | overdue
  deriving DecidableEq, Repr

/-- What can happen. -/
inductive ConnectionEvent where
  /-- A unit gets a worker. -/
  | arrive
  /-- A unit gets a connection for its statements, or ends without. -/
  | acquire (unit : Nat) (supply : Supply)
  /-- A transaction has begun. -/
  | begun (unit : Nat)
  /-- A unit is done with its connection and gives it back. -/
  | finish (unit : Nat)
  /-- A unit is done with its connection, which is of no more use. -/
  | spoil (unit : Nat)
  /-- The caller of a unit leaves. -/
  | abandon (unit : Nat)
  /-- An abandoned unit gets a second connection and sends the kill, or goes on without. -/
  | kill (unit : Nat) (supply : Supply)
  /-- The kill is answered. -/
  | killed (unit : Nat)
  /-- An abandoned connection is closed. -/
  | close (unit : Nat)
  /-- An administrator's statement gets a connection, or does without. -/
  | borrow (supply : Supply)
  /-- An administrator's statement gives its connection back. -/
  | giveBack (number : Nat)
  /-- An idle connection is lost. -/
  | lose (number : Nat)
  deriving DecidableEq, Repr

namespace Connections

/-- The connections that units hold. -/
def held (c : Connections) : List Nat := c.units.flatMap Stage.held

/-- How many connections the pool has. -/
def openCount (c : Connections) : Nat :=
  c.idle.length + c.borrowed.length + (c.units.flatMap Stage.pooled).length

/-- The units at work. -/
def active (c : Connections) : Nat := c.units.countP Stage.isActive

/-- The state with another stage of a unit. -/
def put (c : Connections) (unit : Nat) (s : Stage) : Connections :=
  { c with units := c.units.set unit s }

/-- A connection for a unit: its number, and the state without it among the idle ones; absent when
it cannot be supplied in this way. A refused connection has no number. -/
def supply? (c : Connections) : Supply → Option (Option Nat × Connections)
  | .idle =>
    match c.idle with
    | n :: rest => some (some n, { c with idle := rest })
    | [] => none
  | .fresh =>
    if c.openCount < c.capacity then
      some (some (c.accepted + 1), { c with accepted := c.accepted + 1 })
    else none
  | .refused =>
    if c.openCount < c.capacity then
      some (none, { c with accepted := c.accepted + 1 })
    else none
  | .overdue => if c.idle = [] ∧ c.capacity ≤ c.openCount then some (none, c) else none

/-- What an event does; `none` if it cannot happen now. -/
def step (c : Connections) : ConnectionEvent → Option Connections
  | .arrive =>
    if c.active < c.workers then some { c with units := c.units ++ [.waiting] } else none
  | .acquire u supply =>
    match c.units[u]?, c.supply? supply with
    | some .waiting, some (some n, c') => some (c'.put u (.working n false))
    | some .waiting, some (none, c') => some (c'.put u .ended)
    | _, _ => none
  | .begun u =>
    match c.units[u]? with
    | some (.working n _) => some (c.put u (.working n true))
    | _ => none
  | .finish u =>
    match c.units[u]? with
    | some (.working n _) => some { c.put u .ended with idle := c.idle ++ [n] }
    | _ => none
  | .spoil u =>
    match c.units[u]? with
    | some (.working _ _) => some (c.put u .ended)
    | _ => none
  | .abandon u =>
    match c.units[u]? with
    | some .waiting => some (c.put u .ended)
    | some (.working n t) => some (c.put u (.abandoned n t))
    | _ => none
  | .kill u supply =>
    match c.units[u]?, c.supply? supply with
    | some (.abandoned n t), some (some m, c') =>
      some { c'.put u (.killing n m t) with kills := c.kills ++ [⟨u, n, m⟩] }
    | some (.abandoned n t), some (none, c') => some (c'.put u (.closing n t))
    | _, _ => none
  | .killed u =>
    match c.units[u]? with
    | some (.killing n m t) => some { c.put u (.closing n t) with idle := c.idle ++ [m] }
    | _ => none
  | .close u =>
    match c.units[u]? with
    | some (.closing _ _) => some (c.put u .ended)
    | _ => none
  | .borrow supply =>
    match c.supply? supply with
    | some (number?, c') => some { c' with borrowed := c.borrowed ++ number?.toList }
    | none => none
  | .giveBack n =>
    if n ∈ c.borrowed then
      some { c with borrowed := c.borrowed.erase n, idle := c.idle ++ [n] }
    else none
  | .lose n => if n ∈ c.idle then some { c with idle := c.idle.erase n } else none

/-- The state can come about, by whatever order of events. -/
inductive Reachable (workers capacity : Nat) : Connections → Prop where
  | start : Reachable workers capacity { workers, capacity }
  | next {c d : Connections} (e : ConnectionEvent) (reached : Reachable workers capacity c)
      (happens : c.step e = some d) : Reachable workers capacity d

end Connections

end QueryGate.Server
