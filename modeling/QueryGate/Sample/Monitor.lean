import QueryGate.Failure

/-!
# Who generates, and how far it is

A monitor shows the progress of the one generation that may run at a time. Who begins a generation
gets the claim on the monitor; only the holder of the claim reports, and giving the claim back ends
the generation. Claims are told apart by a number that their holder chooses.
-/

namespace QueryGate.Sample

/-- What a monitor shows. -/
structure Status where
  generating : Bool := false
  /-- Percent complete. -/
  progress : Nat := 0
  task : String := ""
  deriving DecidableEq, Repr

/-- The status that beginning sets. -/
def Status.starting : Status := ⟨true, 0, "Starting..."⟩

/-- The status with progress and task; progress ends at one hundred. -/
def Status.report (s : Status) (progress : Nat) (task : String) : Status :=
  { s with progress := min progress 100, task }

/-- The status behind the end of a generation. -/
def Status.stop (s : Status) : Status := { s with generating := false }

/-- A second generation was begun while one runs. -/
def alreadyGenerating : Failure := ⟨.conflict, "Data generation is already in progress"⟩

/-- A status, with the claims that are held. -/
structure Monitor where
  status : Status := {}
  claims : List String := []
  deriving DecidableEq, Repr

/-- What is done to a monitor. -/
inductive Action where
  | begin (claim : String)
  | report (claim : String) (progress : Nat) (task : String)
  | release (claim : String)
  | look
  deriving DecidableEq, Repr

/-- What an action answers. -/
inductive Reply where
  | begun
  | refused (reason : Failure)
  | reported
  /-- The claim was not held. -/
  | noClaim
  | released (held : Bool)
  | looked
  deriving DecidableEq, Repr

namespace Monitor

/-- Claims the monitor; it is refused while a generation runs. -/
def begin (m : Monitor) (claim : String) : Except Failure Monitor :=
  if m.status.generating then .error alreadyGenerating
  else .ok ⟨.starting, claim :: m.claims.filter (· != claim)⟩

/-- Shows progress. -/
def report (m : Monitor) (progress : Nat) (task : String) : Monitor :=
  { m with status := m.status.report progress task }

/-- Gives a claim back. -/
def release (m : Monitor) (claim : String) : Monitor :=
  ⟨m.status.stop, m.claims.filter (· != claim)⟩

/-- Performs an action. Without its claim a holder can neither report nor release. -/
def act (m : Monitor) : Action → Monitor × Reply
  | .begin claim =>
    match m.begin claim with
    | .ok m => (m, .begun)
    | .error e => (m, .refused e)
  | .report claim progress task =>
    if m.claims.contains claim then (m.report progress task, .reported) else (m, .noClaim)
  | .release claim =>
    if m.claims.contains claim then (m.release claim, .released true) else (m, .released false)
  | .look => (m, .looked)

end Monitor

end QueryGate.Sample
