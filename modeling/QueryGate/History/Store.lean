import QueryGate.History.Opening

/-!
# The history store

A store is a history that was opened, and how many entries it keeps for each user. Once it is
closed, every operation fails, and says what it was about to do.
-/

namespace QueryGate

/-- What is asked of a store. -/
inductive HistoryRequest where
  | record (attempt : Attempt)
  | list (user limit offset : Int)
  | get (user id : Int)
  | count (user : Int)
  | prune (user : Int) (keep : Nat)
  deriving DecidableEq, Repr

/-- What a store answers. -/
inductive HistoryAnswer where
  | recorded (id : Nat)
  | entries (entries : List Entry)
  | entry (found : Option Entry)
  | counted (n : Nat)
  | pruned (n : Nat)
  deriving DecidableEq, Repr

/-- What a request is about to do. -/
def HistoryRequest.purpose : HistoryRequest → String
  | .record _ => "record query"
  | .list .. => "list history"
  | .get .. => "get history entry"
  | .count _ => "count history"
  | .prune .. => "prune history"

namespace Log

/-- Answers a request at time `now`. -/
def answer (l : Log) (now : Instant) : HistoryRequest → HistoryAnswer × Log
  | .record attempt =>
    let l' := l.insert now attempt
    (.recorded l'.lastId, l')
  | .list user limit offset => (.entries (l.list user limit offset), l)
  | .get user id => (.entry (l.get? user id), l)
  | .count user => (.counted (l.count user), l)
  | .prune user keep =>
    let l' := l.prune user keep
    (.pruned (l.entries.length - l'.entries.length), l')

end Log

/-- The entries kept for each user when nothing else is asked for. -/
def defaultKeep : Nat := 1000

/-- A history that was opened. -/
structure Store where
  place : HistoryPlace
  disk : Disk Content
  /-- The number of the file. -/
  file : Nat
  keep : Nat := defaultKeep
  closed : Bool := false

namespace Store

/-- The log in the store's file. -/
def log? (s : Store) : Option Log :=
  match s.disk.database? s.file with
  | some { history := { log := .table log, .. }, .. } => some log
  | _ => none

/-- The store with another log. -/
def putLog (s : Store) (log : Log) : Store :=
  match s.disk.database? s.file with
  | some db =>
    let history := { db.history with log := .table log }
    { s with disk := s.disk.updateDatabase s.file { db with history } }
  | none => s

/-- The failure of a request. -/
def failure (r : HistoryRequest) (reason : String) : Failure :=
  ⟨.persistence, "Failed to " ++ r.purpose ++ ": " ++ reason⟩

/-- Answers a request at time `now`. -/
def ask (s : Store) (now : Instant) (r : HistoryRequest) : Except Failure HistoryAnswer × Store :=
  if s.closed then (.error (failure r closedPool), s)
  else
    match s.log? with
    | none =>
      (.error (failure r
        "error returned from database: (code: 1) no such column: user_id"), s)
    | some log =>
      let (answer, log') := log.answer now r
      (.ok answer, s.putLog log')

/-- Records an attempt and prunes the entries of its user. -/
def record (s : Store) (now : Instant) (a : Attempt) : Except Failure Unit × Store :=
  match s.ask now (.record a) with
  | (.error e, s') => (.error e, s')
  | (.ok _, s') =>
    match s'.ask now (.prune a.userId s.keep) with
    | (.error e, s'') => (.error e, s'')
    | (.ok _, s'') => (.ok (), s'')

def close (s : Store) : Store := { s with closed := true }

/-- Opens a store at a place on a disk. -/
def openAt (place : HistoryPlace) (keep : Nat) (disk : Disk Content) :
    Except Failure Store × Disk Content :=
  match openHistory place disk with
  | (.ok file, disk') => (.ok { place, disk := disk', file, keep }, disk')
  | (.error e, disk') => (.error e, disk')

end Store

end QueryGate
