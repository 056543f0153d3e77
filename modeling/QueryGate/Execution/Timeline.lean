import QueryGate.Execution.Floor

/-!
# The floor on a clock

What needs no waiting happens at once: callers collect answers, abandoned units notice it, units
with a worker begin, and free workers are taken in order of arrival. Only when nothing more can
happen does the clock move, to the next timer: an answer, a deadline, or the end of a cleanup.
Times are milliseconds.
-/

namespace QueryGate

/-- An event that is due at a time. -/
structure Timer where
  due : Nat
  event : FloorEvent
  deriving DecidableEq, Repr

/-- What does not change while the clock runs. -/
structure Pace where
  script : Script := {}
  /-- How long a caller waits. -/
  deadline : Nat := 30000

/-- The floor at a time. -/
structure Timeline where
  floor : Floor
  now : Nat := 0
  /-- The timers that are set, in the order of setting. -/
  timers : List Timer := []
  /-- When each caller left that has left. -/
  departures : List (Nat × Nat) := []

namespace Floor

/-- The event that happens next without waiting, if there is one. -/
def immediate? (f : Floor) : Option FloorEvent :=
  let collects := (f.units.findIdx? fun u => u.ending?.isNone && u.reply?.isSome).map .collect
  let notices := (f.units.findIdx? fun u => u.phase == .waiting && u.abandoned).map .notice
  let begins := (f.units.findIdx? (·.phase == .ready)).map .begin
  let takes := if 0 < f.idle then (f.units.findIdx? (·.phase == .queued)).map .take else none
  collects <|> notices <|> begins <|> takes

end Floor

namespace Timeline

variable (pace : Pace)

/-- The timer that an event sets, given the floor after it. -/
def timerOf? (t : Timeline) (after : Floor) : FloorEvent → Option Timer
  | .arrive _ => some ⟨t.now + pace.deadline, .expire t.floor.units.length⟩
  | .begin i =>
    match after.units[i]? with
    | some u =>
      if u.phase = .waiting then
        some ⟨t.now + pace.script.delay u.request.sql, .answer i⟩
      else none
    | none => none
  | .notice i => some ⟨t.now + pace.script.cleanup, .release i⟩
  | _ => none

/-- The unit whose caller leaves in an event. -/
def leaver? : FloorEvent → Option Nat
  | .collect i => some i
  | .expire i => some i
  | _ => none

/-- An event happens now, if it can. -/
def happen (t : Timeline) (e : FloorEvent) : Timeline :=
  match t.floor.step pace.script e with
  | none => t
  | some floor =>
    { t with
      floor
      timers := t.timers ++ (timerOf? pace t floor e).toList
      departures := t.departures ++ ((leaver? e).map (·, t.now)).toList }

/-- Lets happen what needs no waiting, `fuel` events at most. -/
def settleIn : Nat → Timeline → Timeline
  | 0, t => t
  | fuel + 1, t =>
    match t.floor.immediate? with
    | some e => settleIn fuel (t.happen pace e)
    | none => t

/-- Lets happen everything that needs no waiting. No unit takes part in more than four such
events. -/
def settle (t : Timeline) : Timeline := settleIn pace (4 * t.floor.units.length) t

/-- The time of the next timer. -/
def nextDue? (t : Timeline) : Option Nat := (t.timers.map (·.due)).min?

/-- Moves the clock to `time` and fires the timers that are due then. -/
def fire (t : Timeline) (time : Nat) : Timeline :=
  let due := t.timers.filter (·.due ≤ time)
  let rest := { t with now := time, timers := t.timers.filter (¬ ·.due ≤ time) }
  due.foldl (fun t timer => t.happen pace timer.event) rest

/-- Runs the clock until `stop`, which sees the settled floor and the time of the next timer; from
one timer to the next, `fuel` times at most. -/
def runIn (stop : Timeline → Nat → Bool) : Nat → Timeline → Timeline
  | 0, t => settle pace t
  | fuel + 1, t =>
    let t := settle pace t
    match t.nextDue? with
    | none => t
    | some due => if stop t due then t else runIn stop fuel (t.fire pace due)

/-- Runs the clock until `stop`. No unit has more than three timers. -/
def run (stop : Timeline → Nat → Bool) (t : Timeline) : Timeline :=
  runIn pace stop (3 * t.floor.units.length + 1) t

/-- Every caller has left. -/
def allLeft (t : Timeline) : Bool := t.floor.units.all (·.ending?.isSome)

/-- Waits until every caller has left. -/
def await (t : Timeline) : Timeline := run pace (fun t _ => t.allLeft) t

/-- Lets some milliseconds pass. -/
def pass (t : Timeline) (ms : Nat) : Timeline :=
  let horizon := t.now + ms
  { run pace (fun _ due => horizon < due) t with now := horizon }

/-- How the caller of a unit left, and when. -/
def endingOf (t : Timeline) (unit : Nat) : Ending × Nat :=
  let ending := (t.floor.units[unit]?.bind (·.ending?)).getD .timedOut
  (ending, (t.departures.lookup unit).getD t.now)

/-- Hands in a unit for each request, all at once. A deadline of no time passes on arrival. -/
def receive (t : Timeline) (requests : List Request) : Timeline :=
  (requests.foldl (fun t r => t.happen pace (.arrive r)) t).fire pace t.now

/-- Hands in a unit for each request and waits until every caller has left. Gives the ending of each
request with the time it took. -/
def perform (t : Timeline) (requests : List Request) : Timeline × List (Ending × Nat) :=
  let first := t.floor.units.length
  let after := await pace (t.receive pace requests)
  let endings := (List.range' first requests.length).map fun i =>
    let (ending, left) := after.endingOf i
    (ending, left - t.now)
  (after, endings)

/-- Hands in a unit for one request and waits until its caller has left. -/
def ask (request : Request) : StateM Timeline (Ending × Nat) := fun t =>
  let (t, endings) := t.perform pace [request]
  (endings.head?.getD (.timedOut, 0), t)

end Timeline

end QueryGate
