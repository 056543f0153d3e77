import QueryGate.History.Entry

/-!
# The log of attempts

Entries stand in the order of recording. Each gets a number above all that were ever given, so a
number is never used again. A user sees only the own entries, newest first: by time, then by
number. Recording and pruning are separate operations, each done at once; the entries of other
users are never touched by pruning.
-/

namespace QueryGate

/-- Entry `a` is newer than entry `b`. -/
def Entry.newer (a b : Entry) : Bool :=
  b.createdAt < a.createdAt || (b.createdAt == a.createdAt && b.id < a.id)

/-- The recorded attempts of all users. -/
structure Log where
  /-- The entries in the order of recording. -/
  entries : List Entry := []
  /-- The largest number that was ever given to an entry. -/
  lastId : Nat := 0
  deriving DecidableEq, Repr

namespace Log

/-- The most entries on one page. -/
def maxPage : Int := 100

/-- The length of a page on which `limit` entries are asked for. -/
def pageLength (limit : Int) : Nat := (max 1 (min limit maxPage)).toNat

/-- The entries of a user, newest first. -/
def newestFirst (l : Log) (user : Int) : List Entry :=
  (l.entries.filter (·.attempt.userId == user)).mergeSort fun a b => !b.newer a

/-- Records an attempt at time `now`. -/
def insert (l : Log) (now : Instant) (a : Attempt) : Log where
  entries := l.entries ++ [⟨l.lastId + 1, a, now⟩]
  lastId := l.lastId + 1

/-- Removes all but the newest `keep` entries of a user. -/
def prune (l : Log) (user : Int) (keep : Nat) : Log :=
  let surplus := ((l.newestFirst user).drop keep).map (·.id)
  { l with
    entries := l.entries.filter fun e => e.attempt.userId ≠ user || !surplus.contains e.id }

/-- Records an attempt and prunes the entries of its user. -/
def record (l : Log) (keep : Nat) (now : Instant) (a : Attempt) : Log :=
  (l.insert now a).prune a.userId keep

/-- A page of a user's entries. -/
def list (l : Log) (user limit offset : Int) : List Entry :=
  ((l.newestFirst user).drop offset.toNat).take (pageLength limit)

/-- The entry of this number, if it is the user's own. -/
def get? (l : Log) (user id : Int) : Option Entry :=
  l.entries.find? fun e => e.attempt.userId == user && (e.id : Int) == id

/-- The number of a user's entries. -/
def count (l : Log) (user : Int) : Nat := l.entries.countP (·.attempt.userId == user)

end Log

end QueryGate
