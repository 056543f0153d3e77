import QueryGate.History.Store
import QueryGate.Program.World
import QueryGate.Random.ChaCha
import QueryGate.Sample.Storing
import QueryGate.Sandbox.FileClient
import QueryGate.Server.Client
import QueryGate.Service.Basic

/-!
# Sessions

A session is the work of one run: the database behind the gate, the history, and what is done with
both. Every step works on the disk; what a step did before it failed stays.

A run never closes its history, so its log is left. A log that is beside the database already stays
there: when the client is closed, a connection may still be on its way back to it.
-/

namespace QueryGate

/-- A step of a session: it changes the disk, and may fail. -/
abbrev DiskStep (α : Type) : Type := ExceptT Failure (StateM (Disk Content)) α

/-- The step that carries out a function of the disk. -/
def DiskStep.ofFunction {α : Type} (f : Disk Content → Except Failure α × Disk Content) :
    DiskStep α := f

/-! ### The database -/

/-- The gate of the settings. -/
def Settings.gate (s : Settings) : Gate where
  maxRows := s.limits.maxRows
  allowed := .ofNames (s.limits.allowedTables.map String.toList)

/-- The deadline of the settings in milliseconds. -/
def Settings.deadline (s : Settings) : Nat := 1000 * s.limits.timeoutSecs

/-- The database behind the gate. -/
inductive Backing where
  /-- A file database, and the number of its file if it has one. -/
  | file (number? : Option Nat) (client : FileClient)
  | server (client : Server.Client)

namespace Backing

/-- Connects to the database that the settings name. -/
def connect (w : World) (s : Settings) : DiskStep Backing := do
  match s.database.backend with
  | .sqlite =>
    let number? ← DiskStep.ofFunction (connectFile w.base s.database)
    return .file number? (.ofFile number? (← get))
  | .mysql =>
    let (result, client) := Server.Client.connect w.server s.database s.limits.workers
    liftExcept result
    return .server client
where
  liftExcept {α : Type} (r : Except Failure α) : DiskStep α := fun disk => (r, disk)

/-- Executes a statement of a caller, with a time limit in milliseconds. -/
def execute (b : Backing) (g : Gate) (ms : Nat) (p : Privilege) (sql : Sql) : Outcome × Backing :=
  match b with
  | .file _ client => (g.execute client.ending p sql, b)
  | .server client =>
    let (o, client) := client.execute g ms p sql
    (o, .server client)

/-- Explains a statement of a caller. -/
def explain (b : Backing) (g : Gate) (ms : Nat) (p : Privilege) (sql : Sql) : PlanAnswer :=
  match b with
  | .file _ client => g.explain client.ending p sql
  | .server client => (client.explain g ms p sql).1

/-- Executes several statements of a caller. -/
def executeAll (g : Gate) (ms : Nat) (p : Privilege) : List Sql → Backing → List Outcome
  | [], _ => []
  | sql :: rest, b =>
    let (o, b) := b.execute g ms p sql
    o :: executeAll g ms p rest b

/-- Carries out the statements of a generation up to the first that fails. -/
def storeAll : Backing → List Sample.Statement → Backing × Option Failure
  | .file number? client, statements =>
    let (database, fault?) := Sample.storeAll client.database statements
    (.file number? { client with database }, fault?.map fun f => queryFailure f.message)
  | .server client, [] => (.server client, none)
  | .server client, s :: rest =>
    match client.admin s.sql.toList with
    | (.ok _, client) => storeAll (.server client) rest
    | (.error e, client) => (.server client, some e)

/-- The kind of the database. -/
def backend : Backing → Backend
  | .file .. => .sqlite
  | .server _ => .mysql

/-- Writes a file database back to its file. -/
def save : Backing → DiskStep Unit
  | .file (some number) client => modify (·.updateDatabase number client.database)
  | _ => return ()

end Backing

/-- What is asked of the database behind the gate for the statements of a caller. -/
structure Engine (β : Type) where
  connect : DiskStep β
  execute : β → Sql → Outcome
  explain : β → Sql → PlanAnswer
  executeAll : β → List Sql → List Outcome

/-- The database that the settings name, for a caller with a privilege. -/
def Backing.engine (w : World) (s : Settings) (p : Privilege) : Engine Backing where
  connect := Backing.connect w s
  execute b sql := (b.execute s.gate s.deadline p sql).1
  explain b sql := b.explain s.gate s.deadline p sql
  executeAll b sqls := b.executeAll s.gate s.deadline p sqls

/-! ### The history -/

/-- The path of the history. -/
def World.historyPathFor (w : World) (s : Settings) : Path :=
  (s.history.path.map String.toList).getD w.historyPath

/-- The files that a run with these settings works on. -/
def World.filesFor (w : World) (s : Settings) : List (List FileName) :=
  let history : HistoryPlace := ⟨w.base, w.historyPathFor s⟩
  let database := match s.database.backend, s.database.database with
    | .sqlite, some path => [Path.names w.base path]
    | _, _ => []
  (history.way :: database).flatMap (fun way => [way, Disk.logWay way]) ++ [history.backupWay]

/-- The store of a run, which is not closed: what it holds is left in its log. -/
def Store.leave (s : Store) : Store :=
  let (file, disk) := s.disk.leaveLog s.place.way s.file
  { s with file, disk }

/-- Opens the history. One whose path names no file begins empty, on a disk of its own. -/
def openStore (w : World) (s : Settings) : DiskStep Store := do
  let path := w.historyPathFor s
  if Path.isTransient path then
    DiskStep.ofFunction fun disk =>
      ((Store.openAt ⟨[], World.programName⟩ s.history.keepPerUser {}).1, disk)
  else
    let store ← DiskStep.ofFunction (Store.openAt ⟨w.base, path⟩ s.history.keepPerUser)
    set store.leave.disk
    return store.leave

/-- The sink of a history at time `now`. -/
def storeSink (now : Instant) : Sink Store where
  write a store :=
    match store.record now a with
    | (.ok _, store) => (none, store)
    | (.error e, store) => (some e, store)

/-- How the history of a run is kept. -/
structure Keeping (σ : Type) where
  /-- Opens the history. -/
  opening : DiskStep σ
  /-- Where attempts are recorded. -/
  sink : Sink σ
  /-- The disk with what was recorded on it. -/
  saved : σ → Disk Content → Disk Content

/-- The history that the settings name. -/
def World.keeping (w : World) (s : Settings) : Keeping Store where
  opening := openStore w s
  sink := storeSink w.now
  saved store disk := if Path.isTransient (w.historyPathFor s) then disk else store.disk

/-- The database and the history that a caller's statements need. -/
structure Session (β σ : Type) where
  backing : β
  store? : Option σ

namespace Session

variable {β σ : Type}

/-- Connects to the database and, if it is kept, opens the history. -/
def start (engine : Engine β) (keeping : Keeping σ) (s : Settings) : DiskStep (Session β σ) := do
  let backing ← engine.connect
  let store? ← if s.history.enabled then some <$> keeping.opening else pure none
  return { backing, store? }

/-- Records outcomes of a user. What becomes of the records is nobody's concern. -/
def record (keeping : Keeping σ) (x : Session β σ) (user : Int) (outcomes : List Outcome) :
    DiskStep Unit :=
  match x.store? with
  | none => return ()
  | some store => do
    let recorder : Recorder σ :=
      outcomes.foldl (fun r o => r.note (.ofOutcome user o)) { recorded := store }
    modify (keeping.saved (recorder.drain keeping.sink).recorded)

end Session

/-! ### Commands -/

/-- The refusal of a caller who may not generate data. -/
def generationRefused : Failure :=
  ⟨.invalidRequest, "Data generation requires admin privileges"⟩

/-- Fills the sample tables with data. -/
def generateSample (w : World) (s : Settings) (r : Sample.Request) : DiskStep Sample.Report := do
  let backing ← Backing.connect w s
  let planned := Sample.generate backing.backend (fun _ _ => none)
    (Random.ChaCha.ofSeed Sample.defaultSeed) {} r
  match planned.result with
  | .error e => throw e
  | .ok report =>
    let (backing, failure?) := backing.storeAll (planned.calls.map (·.statement))
    backing.save
    match failure? with
    | some e => throw e
    | none => return report

/-- Why statements cannot be compared. -/
def compareFault? (s : Settings) (sqls : List Sql) : Option Failure :=
  let limit := max 1 s.limits.maxCompare
  if sqls.isEmpty then some nothingToCompare
  else if limit < sqls.length then some (tooManyToCompare limit)
  else none

/-- Does what an invocation asks for, with these settings, and gives what is to be shown. -/
def perform {β σ : Type} (engine : Engine β) (keeping : Keeping σ) (w : World) (s : Settings)
    (i : CommandLine.Invocation) : DiskStep Json := do
  match i.command with
  | .history limit offset =>
    let store ← openStore w s
    match (store.ask w.now (.list i.userId limit offset)).1 with
    | .ok (.entries entries) => return .arr (entries.map Entry.toJson)
    | .ok _ => return .arr []
    | .error e => throw e
  | .generate request =>
    if i.privilege.isAdmin then return (← generateSample w s request).toJson
    else throw generationRefused
  | .query sql =>
    let x ← Session.start engine keeping s
    let outcome := engine.execute x.backing sql
    x.record keeping i.userId [outcome]
    return outcome.toJson
  | .explain sql =>
    let x ← Session.start engine keeping s
    return (engine.explain x.backing sql).toJson
  | .compare sqls =>
    let x ← Session.start engine keeping s
    match compareFault? s sqls with
    | some e => throw e
    | none =>
      let outcomes := engine.executeAll x.backing sqls
      x.record keeping i.userId outcomes
      return .arr (outcomes.map Outcome.toJson)

end QueryGate
