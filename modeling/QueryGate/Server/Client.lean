import QueryGate.Connection.Settings
import QueryGate.Execution.Floor
import QueryGate.Sandbox.Dialogue
import QueryGate.Server.Connections
import QueryGate.Server.Login
import QueryGate.Server.Script
import QueryGate.Text.Lower

/-!
# Clients of a server

A client connects to a server, trying again when the reason for a failure may pass. It then carries
out one request after another, each on a connection of its pool, and keeps a log of what the server
was sent.
-/

namespace QueryGate.Server

open Text

/-- Why there is no new connection. -/
inductive ConnectFault where
  | login (fault : LoginFault)
  /-- The server closed the connection before it said anything. -/
  | dropped
  | refused (error : ServerError)
  /-- No connection came about in time. -/
  | overdue
  deriving DecidableEq, Repr

namespace ConnectFault

/-- The wording of a fault. -/
def message : ConnectFault → String
  | .login fault => fault.message
  | .dropped =>
    "error communicating with database: expected to read 4 bytes, got 0 bytes at EOF"
  | .refused e => e.driverText
  | .overdue => "pool timed out while waiting for an open connection"

/-- The wording of a fault that a statement runs into. -/
def statementText : ConnectFault → String
  | .refused e => e.text
  | f => f.message

/-- The message in lower case has one of these fragments. -/
def mentions (f : ConnectFault) (fragments : List String) : Bool :=
  let text := lower f.message.toList
  fragments.any fun fragment => occurs fragment.toList text

/-- The reason may pass. -/
def mayPass (f : ConnectFault) : Bool :=
  match f with
  | .dropped => true
  | .overdue => true
  | _ =>
    f.mentions ["connection refused", "timed out", "temporarily unavailable", "connection reset",
      "broken pipe", "too many connections"]

/-- The failure that a user sees. -/
def failure (f : ConnectFault) (c : Connection) : Failure :=
  let place := String.ofList (c.hostOrDefault ++ ':' :: natText c.portOrDefault)
  let shown (name : Option (List Char)) := String.ofList (name.getD "unknown".toList)
  let text :=
    if f.mentions ["connection refused", "could not connect"] then
      "Cannot connect to " ++ place ++ ". Check that the server is running."
    else if f.mentions ["access denied"] then
      "Authentication failed for user '" ++ shown c.user ++ "'. Check your credentials."
    else if f.mentions ["unknown database"] then
      "Database '" ++ shown c.database ++ "' does not exist."
    else if f.mentions ["timed out", "timeout"] then
      "Connection to " ++ place ++ " timed out. The server may be overloaded or unreachable."
    else f.message
  ⟨.connection, text⟩

end ConnectFault

/-- A client and its server. -/
structure Client where
  script : Script := {}
  login : Login := {}
  connections : Connections
  /-- The logins that the server saw, in order. -/
  logins : List Login := []
  /-- The statements that the server received, each with the number of its connection. -/
  log : List (Nat × Sql) := []
  closed : Bool := false

namespace Client

/-- How the next new connection is met: what it is for the pool, and why there is none. -/
def nextSupply (c : Client) : Supply × Option ConnectFault :=
  match c.script.greeting (c.connections.accepted + 1) with
  | .accept => (.fresh, none)
  | .drop => (.refused, some .dropped)
  | .refuse e => (.refused, some (.refused e))

/-- The logins after the next new connection. -/
def loginsAfter (c : Client) : List Login :=
  match c.script.greeting (c.connections.accepted + 1) with
  | .drop => c.logins
  | _ => c.logins ++ [c.login]

/-- How the pool can supply a connection now, why not if it cannot, and the logins afterwards. -/
def supply (c : Client) : Supply × Option ConnectFault × List Login :=
  if c.connections.idle ≠ [] then (.idle, none, c.logins)
  else if c.connections.openCount < c.connections.capacity then
    let (supply, fault) := c.nextSupply
    (supply, fault, c.loginsAfter)
  else (.overdue, some .overdue, c.logins)

/-- The client after an event on its connections. -/
def happen (c : Client) (e : ConnectionEvent) : Client :=
  { c with connections := (c.connections.step e).getD c.connections }

/-- Where a unit stands. -/
def stage? (c : Client) (unit : Nat) : Option Stage := c.connections.units[unit]?

/-- Notes a statement that the server received. -/
def note (c : Client) (number : Nat) (sql : Sql) : Client :=
  { c with log := c.log ++ [(number, sql)] }

/-! ### Connecting -/

/-- Opens the first connection, with so many attempts. -/
def attempt (c : Client) : Nat → Except ConnectFault Unit × Client
  | 0 => (.error .overdue, c)
  | more + 1 =>
    if c.script.listening then
      let accepted := c.connections.accepted + 1
      let after (idle : List Nat) : Client :=
        { c with connections := { c.connections with accepted, idle }, logins := c.loginsAfter }
      match c.nextSupply.2 with
      | none => (.ok (), after [accepted])
      | some fault =>
        if fault.mayPass && more != 0 then (after []).attempt more else (.error fault, after [])
    else (.error .overdue, c)

/-- The attempts to connect. -/
def maxAttempts : Nat := 3

/-- Connects to a scripted server with these settings. -/
def connect (script : Script) (c : Connection) (workers : Nat) : Except Failure Unit × Client :=
  let start (login : Login) : Client :=
    { script, login, connections := { workers, capacity := c.poolSize } }
  match c.toText with
  | .error e => (.error e.failure, start {})
  | .ok text =>
    match Login.ofText text with
    | .error fault => (.error ((ConnectFault.login fault).failure c), start {})
    | .ok login =>
      let (result, client) := (start login).attempt maxAttempts
      (result.mapError (·.failure c), client)

/-! ### Requests -/

/-- A conversation on one connection. -/
structure Talk where
  client : Client
  /-- The number of the connection. -/
  number : Nat
  /-- The unit that holds it. -/
  unit : Nat
  /-- A rollback failed. -/
  rollbackFailed : Bool := false

/-- Sends a command and takes the answer. -/
def Talk.respond (t : Talk) (c : Command) : Option c.Result × Talk :=
  let sql := c.text .mysql
  let client := t.client.note t.number sql
  let result? := (client.script.reply sql).result? t.number c
  let succeeded : Bool := match result? with
    | some (.ok _) => true
    | _ => false
  let client := if c == .begin && succeeded then client.happen (.begun t.unit) else client
  (result?,
    { t with
      client
      rollbackFailed := t.rollbackFailed || (c == .rollback && result?.isSome && !succeeded) })

/-- The connection of a unit that was abandoned at a command: its statement is killed from another
connection, and it is closed for good. -/
def discard (c : Client) (unit number : Nat) (hung : Command) : Client :=
  let c := c.happen (.abandon unit)
  let (supply, _, logins) := c.supply
  let c := { c with logins }.happen (.kill unit supply)
  let c := match c.stage? unit with
    | some (.killing _ second _) =>
      (c.note second ("KILL QUERY ".toList ++ natText number)).happen (.killed unit)
    | _ => c
  let c := if hung = .begin then c else c.note number (Command.text .mysql .rollback)
  c.happen (.close unit)

/-- How long a request waits for a connection, in milliseconds. -/
def acquireTime : Nat := 10000

/-- Carries out a request with a time limit. A request that is never answered is abandoned at its
deadline. One that hangs before its unit can be abandoned keeps its connection. -/
def ask (c : Client) (ms : Nat) (r : Request) : Ending × Client :=
  if c.closed then (.answered (.error (acquireFailure closedPool)), c)
  else
    let unit := c.connections.units.length
    let (supply, fault, logins) := c.supply
    let c := ({ c with logins }.happen .arrive).happen (.acquire unit supply)
    match fault, c.stage? unit with
    | none, some (.working number _) =>
      match (timedUnit ms r).converse Talk.respond { client := c, number, unit } with
      | (.ok reply, t) =>
        if t.rollbackFailed then
          (.answered reply,
            (t.client.note number (Command.text .mysql .rollback)).happen (.spoil unit))
        else (.answered reply, t.client.happen (.finish unit))
      | (.error hung, t) =>
        match hung with
        | .limitTime _ => (.timedOut, t.client)
        | .connectionNumber => (.timedOut, t.client)
        | _ => (.timedOut, t.client.discard unit number hung)
    | fault, _ =>
      if fault = some .overdue ∧ ms ≤ acquireTime then (.timedOut, c.happen (.abandon unit))
      else (.answered (.error (acquireFailure ((fault.map (·.message)).getD closedPool))), c)

/-- Answers a request. Nothing is sent for a caller who has left already. -/
def answer (c : Client) (ms : Nat) (abandoned : Bool) (r : Request) : Reply × Client :=
  if abandoned then (.error abandonedFailure, c)
  else
    match c.ask ms r with
    | (.answered reply, c) => (reply, c)
    | (.timedOut, c) => (.error abandonedFailure, c)

/-- Sends a statement of an administrator: how many rows it changed. -/
def admin (c : Client) (sql : Sql) : Except Failure Nat × Client :=
  if c.closed then (.error (queryFailure closedPool), c)
  else
    let (supply, fault, logins) := c.supply
    let c := { c with logins }.happen (.borrow supply)
    match fault, c.connections.borrowed.getLast? with
    | none, some number =>
      let c := c.note number sql
      match c.script.reply sql with
      | .ok n => (.ok n, c.happen (.giveBack number))
      | .fail e => (.error (queryFailure e.text), c.happen (.giveBack number))
      | .hang => (.error abandonedFailure, c)
      | _ => (.ok 0, c.happen (.giveBack number))
    | fault, _ => (.error (queryFailure ((fault.map (·.statementText)).getD closedPool)), c)

def close (c : Client) : Client := { c with closed := true }

/-- Carries out a request of a caller with a time limit. The time that it takes is not measured. -/
def exchange (ms : Nat) (r : Request) : StateM Client (Ending × Nat) := fun c =>
  let (ending, c) := c.ask ms r
  ((ending, 0), c)

/-- Executes a statement of a caller. -/
def execute (c : Client) (g : Gate) (ms : Nat) (p : Privilege) (sql : Sql) : Outcome × Client :=
  Id.run ((g.executeIn (exchange ms) p sql).run c)

/-- Explains a statement of a caller. -/
def explain (c : Client) (g : Gate) (ms : Nat) (p : Privilege) (sql : Sql) :
    PlanAnswer × Client :=
  Id.run ((g.explainIn (exchange ms) p sql).run c)

end Client

end QueryGate.Server
