import QueryGate.Execution.Timeline
import QueryGate.Proofs.Execution.Workers

/-!
# Calls side by side

Many callers have their statements run or explained at once. Whatever the order of events, each of
them sees its own statement only.

* `Call`: a call of the executor, and `Call.request?` what it hands in.
* `arrivals es`: what is handed in in a run.
* `overtaken script f es`: how many units were at the database when their caller's deadline passed.

Headline: **`calls_served`**: a statement reaches the database at most once and never after its
caller has left; each caller leaves once, with the answer of its own unit or without any; and the
abandoned units that are counted are those that were at the database when their caller left.
-/

namespace QueryGate

/-- A call of the executor. -/
structure Call where
  privilege : Privilege
  sql : Sql
  /-- The plan alone is asked for. -/
  planOnly : Bool := false
  deriving DecidableEq, Repr

/-- What a call hands in, unless it is refused. -/
def Call.request? (gate : Gate) (c : Call) : Option Request :=
  (if c.planOnly then gate.submitPlan c.privilege c.sql else gate.submit c.privilege c.sql).request?

/-- The request that arrives in an event. -/
def FloorEvent.request? : FloorEvent → Option Request
  | .arrive request => some request
  | _ => none

/-- The requests that arrive in a run. -/
def arrivals (es : List FloorEvent) : List Request := es.filterMap FloorEvent.request?

variable {script : Script} {f g : Floor} {e : FloorEvent} {i n : Nat} {u u' : WorkUnit}
  {sent texts : List Sql} {es : List FloorEvent}

/-! ## Units and what they were handed -/

theorem Happens.requests (h : Happens script f e g) :
    g.units.map (·.request) = f.units.map (·.request) ++ e.request?.toList := by
  cases h with
  | arrive request => simp [FloorEvent.request?]
  | admin sql => simp [FloorEvent.request?]
  | @move e g i u u' texts hon =>
    obtain ⟨hlt, hget⟩ := List.getElem?_eq_some_iff.mp hon.unit
    have hnone : e.request? = none := by
      have := hon.moves.unit?
      cases e with
      | arrive => exact absurd this (by simp [FloorEvent.unit?])
      | _ => rfl
    have hsame : (f.units.map (·.request)).set i u'.request = f.units.map (·.request) := by
      have hlt' : i < (f.units.map (·.request)).length := by rwa [List.length_map]
      have hat : u'.request = (f.units.map (·.request))[i] := by
        rw [hon.moves.request, ← hget, List.getElem_map]
      rw [hat, List.set_getElem_self]
    rw [hnone, hon.units, List.map_set, hsame, Option.toList_none, List.append_nil]

/-- **The units are those that were handed in**, in order of arrival. -/
theorem requests_of_steps (hrun : f.steps script es = some g) :
    g.units.map (·.request) = f.units.map (·.request) ++ arrivals es := by
  refine run_induction (P := fun es g => g.units.map (·.request) =
    f.units.map (·.request) ++ arrivals es) (List.append_nil _).symm ?_ hrun
  intro es g e h _ hstep ih
  rw [(happens_of_step hstep).requests, ih, arrivals, arrivals, List.filterMap_append,
    List.append_assoc]
  cases hr : e.request? <;> simp [hr]

/-! ## How often a unit takes part -/

/-- The events that a unit can still take part in. -/
def WorkUnit.remaining (u : WorkUnit) : Nat :=
  (match u.phase with
    | .queued => 4
    | .ready => 3
    | .waiting => 2
    | .cleaning => 1
    | .finished => 0) + if u.ending?.isNone then 1 else 0

theorem Moves.remaining (h : Moves script i u e u' texts) : u'.remaining < u.remaining := by
  cases h with
  | take h | refuse h | reply h | wait h | answer h | notice h | release h =>
    simp [WorkUnit.remaining, WorkUnit.finished, h]
  | collect h | expire h => simp [WorkUnit.remaining, h]

/-- **A unit takes part in five events at most.** -/
theorem countP_unit_le (hrun : (Floor.ofSize n).steps script es = some f) (i : Nat) :
    es.countP (·.unit? = some i) + f.units[i]?.elim 5 WorkUnit.remaining ≤ 5 := by
  refine run_induction (P := fun es f => es.countP (·.unit? = some i) +
    f.units[i]?.elim 5 WorkUnit.remaining ≤ 5) ?_ ?_ hrun
  · exact Nat.le_refl 5
  intro es f e g _ hstep ih
  rw [List.countP_append, List.countP_singleton]
  rcases (happens_of_step hstep).place i with
    ⟨u, u', texts, hon, hu', -⟩ | ⟨hne, -, hsame | ⟨hi, request, hnew⟩⟩
  · rw [hon.unit] at ih
    rw [hu', if_pos (decide_eq_true hon.moves.unit?)]
    have hless := hon.moves.remaining
    simp only [Option.elim_some] at ih ⊢
    omega
  · rwa [if_neg (by simpa using hne), hsame]
  · rw [List.getElem?_eq_none (Nat.le_of_eq hi.symm)] at ih
    rw [if_neg (by simpa using hne), hnew]
    exact ih

theorem Moves.leaver (h : Moves script i u e u' texts) :
    (if u.ending?.isSome then 1 else 0) + (if Timeline.leaver? e = some i then 1 else 0) =
      if u'.ending?.isSome then 1 else 0 := by
  cases h with
  | collect h | expire h => simp [Timeline.leaver?, h]
  | take | refuse | reply | wait | answer | notice | release => rfl

theorem leaver?_ne (h : e.unit? ≠ some i) : Timeline.leaver? e ≠ some i := by
  cases e with
  | collect | expire => exact h
  | _ => simp [Timeline.leaver?]

/-- **A caller leaves once**: its unit's events in which a caller leaves are one if its caller has
left, and none before. -/
theorem countP_leaver (hrun : (Floor.ofSize n).steps script es = some f) (i : Nat) :
    es.countP (Timeline.leaver? · = some i) =
      f.units[i]?.elim 0 fun u => if u.ending?.isSome then 1 else 0 := by
  refine run_induction (P := fun es f => es.countP (Timeline.leaver? · = some i) =
    f.units[i]?.elim 0 fun u => if u.ending?.isSome then 1 else 0) rfl ?_ hrun
  intro es f e g _ hstep ih
  rw [List.countP_append, List.countP_singleton, ih]
  simp only [decide_eq_true_eq]
  rcases (happens_of_step hstep).place i with
    ⟨u, u', texts, hon, hu', -⟩ | ⟨hne, -, hsame | ⟨hi, request, hnew⟩⟩
  · rw [hon.unit, hu']
    exact hon.moves.leaver
  · rw [if_neg (leaver?_ne hne), hsame, Nat.add_zero]
  · rw [if_neg (leaver?_ne hne), hnew, List.getElem?_eq_none (Nat.le_of_eq hi.symm)]
    rfl

/-! ## Units that let go -/

/-- Whether the event is the deadline of a unit at the database: one, or none. -/
def Floor.overtakenBy (f : Floor) : FloorEvent → Nat
  | .expire i => if f.units[i]?.any (·.phase == .waiting) then 1 else 0
  | _ => 0

/-- How many units were at the database when their caller's deadline passed. -/
def overtaken (script : Script) : Floor → List FloorEvent → Nat :=
  tally script fun f e _ => f.overtakenBy e

/-- The unit is abandoned and has yet to let go of its statement. -/
def WorkUnit.lingers (u : WorkUnit) : Bool :=
  u.abandoned && (u.phase == .waiting || u.phase == .cleaning)

theorem Moves.lingers (h : Moves script i u e u' texts) (hs : Standing script sent u) (f : Floor)
    (hu : f.units[i]? = some u) :
    (if u.lingers then 1 else 0) + f.overtakenBy e =
      (if e = .release i then 1 else 0) + if u'.lingers then 1 else 0 := by
  cases h with
  | take h => simp [WorkUnit.lingers, Floor.overtakenBy, h]
  | refuse h | reply h => simp [WorkUnit.lingers, WorkUnit.finished, Floor.overtakenBy, h]
  | wait h hhere | answer h hhere =>
    have hstays : u.abandoned = false := by rwa [← Bool.not_eq_true, WorkUnit.abandoned_iff]
    simp [WorkUnit.lingers, WorkUnit.abandoned_phase, WorkUnit.finished, Floor.overtakenBy, h,
      hstays]
  | notice h => simp [WorkUnit.lingers, WorkUnit.abandoned_phase, Floor.overtakenBy, h]
  | release h =>
    have hleft := WorkUnit.abandoned_iff.mpr (hs.left h)
    simp [WorkUnit.lingers, WorkUnit.finished, Floor.overtakenBy, h, hleft]
  | collect hnone => simp [WorkUnit.lingers, WorkUnit.abandoned, Floor.overtakenBy, hnone]
  | expire hnone =>
    have hphase : u.phase ≠ .cleaning := fun h => absurd (hs.left h) (by simp [hnone])
    simp [WorkUnit.lingers, WorkUnit.abandoned, Floor.overtakenBy, hnone, hu, hphase]

theorem Happens.letGo (h : Happens script f e g) (hs : Stands script f) :
    f.letGo + f.units.countP WorkUnit.lingers + f.overtakenBy e =
      g.letGo + g.units.countP WorkUnit.lingers := by
  cases h with
  | arrive request => simp [WorkUnit.lingers, Floor.overtakenBy]
  | admin sql => rfl
  | @move e g i u u' texts hon =>
    have hcount := hon.countP WorkUnit.lingers
    have hmoves := hon.moves.lingers (hs.unit hon.unit) f hon.unit
    have hletGo := hon.letGo
    omega

/-- **Who was at the database when the deadline passed has let go or lingers.** -/
theorem overtaken_eq (hrun : (Floor.ofSize n).steps script es = some f) :
    overtaken script (.ofSize n) es = f.letGo + f.units.countP WorkUnit.lingers := by
  refine run_induction (P := fun es f => overtaken script (.ofSize n) es =
    f.letGo + f.units.countP WorkUnit.lingers) rfl ?_ hrun
  intro es f e g hrun hstep ih
  rw [overtaken, tally_concat hrun hstep,
    ← (happens_of_step hstep).letGo (stands_of_steps hrun), ← ih]
  rfl

/-! ## Calls are served apart -/

/-- **Each call is served by itself**, in any order of events. The units are those of the calls that
are not refused. A unit sends its own statement to the database once at most, and nothing after its
caller has left; if it was in the queue then, nothing at all. A caller leaves once, and either its
deadline has passed or it has the database's answer to its own statement, which was sent. No unit
takes part in more than five events, and when none can go on, every caller has left and the units
that let go are those that were at the database when their caller's deadline passed. -/
theorem calls_served {gate : Gate} {calls : List Call} {es' : List FloorEvent}
    (hcalls : arrivals (es ++ es') = calls.filterMap (·.request? gate))
    (hrun : (Floor.ofSize n).steps script es = some f) (hthen : f.steps script es' = some g) :
    g.units.map (·.request) = calls.filterMap (·.request? gate) ∧
      (∀ i u, g.units[i]? = some u →
        (g.sent i = [] ∨ g.sent i = [u.request.sql]) ∧
        (∀ reply, u.ending? = some (.answered reply) →
          u.reply? = some reply ∧ reply = script.reply u.request.sql ∧
            g.sent i = [u.request.sql]) ∧
        (es ++ es').countP (Timeline.leaver? · = some i) = (if u.ending?.isSome then 1 else 0) ∧
        (es ++ es').countP (·.unit? = some i) ≤ 5) ∧
      (∀ i u ending, f.units[i]? = some u → u.ending? = some ending →
        (∃ v, g.units[i]? = some v ∧ v.ending? = some ending) ∧ g.sent i = f.sent i ∧
          (u.phase = .queued → g.sent i = [])) ∧
      (AtRest script g → (∀ u ∈ g.units, u.ending?.isSome) ∧
        g.letGo = overtaken script (.ofSize n) (es ++ es')) := by
  have hall : (Floor.ofSize n).steps script (es ++ es') = some g := by
    rw [steps_append, hrun]
    exact hthen
  have hs := stands_of_steps hall
  refine ⟨?_, ?_, ?_, ?_⟩
  · rw [requests_of_steps hall, hcalls]
    rfl
  · intro i u hu
    have hstand := hs.unit hu
    refine ⟨hstand.own, fun reply hanswered => ?_, ?_, ?_⟩
    · have hreply := hstand.answered reply hanswered
      exact ⟨hreply, hstand.replied reply hreply (by simp [hanswered])⟩
    · rw [countP_leaver hall, hu]
      rfl
    · have hle := countP_unit_le hall i
      omega
  · intro i u ending hu hleft
    have hstand := stands_of_steps hrun
    obtain ⟨-, v, hv, hgone, hsent⟩ := left_of_steps hstand hu hleft hthen
    refine ⟨⟨v, hv, hgone⟩, hsent, fun hq => ?_⟩
    rw [hsent]
    exact (hstand.unit hu).unsent (Or.inl hq)
  · intro hrest
    have hdone : ∀ u ∈ g.units, u.phase = .finished ∧ u.ending?.isSome := by
      intro u hmem
      obtain ⟨i, hu⟩ := List.mem_iff_getElem?.mp hmem
      exact hrest.done (balanced_of_steps hall) hs hu
    have hnone : g.units.countP WorkUnit.lingers = 0 := by
      refine List.countP_eq_zero.mpr fun u hmem => ?_
      simp [WorkUnit.lingers, (hdone u hmem).1]
    rw [overtaken_eq hall, hnone]
    exact ⟨fun u hmem => (hdone u hmem).2, rfl⟩

/-- A slow statement, a refused one and a plan on one worker. The slow one lets go and the plan gets
the worker, but is not asked for any more. -/
theorem calls_served_one_worker :
    ∃ f g, (Floor.ofSize 1).steps slowScript abandonedRun = some f ∧
      f.steps slowScript [.notice 0, .release 0, .take 1, .begin 1] = some g ∧
      g.sent 0 = ["SELECT slow LIMIT 1000".toList] ∧ g.sent 1 = [] := by
  obtain ⟨f, hrun⟩ : ∃ f, (Floor.ofSize 1).steps slowScript abandonedRun = some f := ⟨_, rfl⟩
  obtain ⟨g, hthen⟩ : ∃ g, f.steps slowScript [.notice 0, .release 0, .take 1, .begin 1] =
      some g := by
    obtain rfl := Option.some.inj hrun
    exact ⟨_, rfl⟩
  have hcalls : arrivals (abandonedRun ++ [.notice 0, .release 0, .take 1, .begin 1]) =
      [⟨.standard, "SELECT slow".toList, false⟩, ⟨.standard, "SELECT 1 FROM users".toList, false⟩,
        ⟨.standard, "SELECT 2".toList, true⟩].filterMap (Call.request? {}) := by
    decide +kernel
  obtain ⟨-, -, hleft, -⟩ := calls_served hcalls hrun hthen
  obtain ⟨-, hslow, -⟩ := hleft 0 _ .timedOut (by obtain rfl := Option.some.inj hrun; rfl) rfl
  obtain ⟨-, -, hplan⟩ := hleft 1 _ .timedOut (by obtain rfl := Option.some.inj hrun; rfl) rfl
  refine ⟨f, g, hrun, hthen, hslow.trans ?_, hplan rfl⟩
  obtain rfl := Option.some.inj hrun
  rfl

end QueryGate
