import QueryGate.Execution.Timeline
import QueryGate.Proofs.Execution.Standing

/-!
# The floor settles

Between two moments of the clock the floor goes on until nothing can happen at once. What can, does:
no event that is picked is refused, and each brings the floor nearer to rest.

* `Floor.pressing`: the events that can still happen at once, at most three of a unit.

Results:
* `step_of_immediate`: an event that is picked happens, and one less is left.
* `settle_settled`: the fuel of `Timeline.settle` is enough.
* `Stays`: what a timeline does keeps the endings that callers have.
-/

namespace QueryGate

variable {script : Script} {pace : Pace} {f g : Floor} {e : FloorEvent} {i : Nat} {u u' : WorkUnit}
  {texts : List Sql} {t : Timeline}

/-! ## What is picked -/

theorem findIdx?_eq_some {p : WorkUnit → Bool} {l : List WorkUnit} (h : l.findIdx? p = some i) :
    ∃ u, l[i]? = some u ∧ p u = true ∧ ∀ j < i, ∀ v, l[j]? = some v → p v = false := by
  obtain ⟨hlt, hp, hfirst⟩ := List.findIdx?_eq_some_iff_getElem.mp h
  refine ⟨l[i], List.getElem?_eq_getElem hlt, hp, fun j hj v hv => ?_⟩
  obtain ⟨hlt', rfl⟩ := List.getElem?_eq_some_iff.mp hv
  simpa using hfirst j hj

theorem findIdx?_eq_none {p : WorkUnit → Bool} {l : List WorkUnit} (h : l.findIdx? p = none)
    (hu : l[i]? = some u) : p u = false :=
  List.findIdx?_eq_none_iff.mp h u (List.mem_of_getElem? hu)

/-- The event can happen at once: a caller finds an answer, a unit finds its caller gone, a unit
with a worker begins, or the first unit of the queue gets a worker. -/
inductive Immediate (f : Floor) : FloorEvent → Prop
  | collect {i : Nat} {u : WorkUnit} (unit : f.units[i]? = some u) (here : u.ending? = none)
      (replied : u.reply?.isSome) : Immediate f (.collect i)
  | notice {i : Nat} {u : WorkUnit} (unit : f.units[i]? = some u) (waiting : u.phase = .waiting)
      (left : u.ending? = some .timedOut) : Immediate f (.notice i)
  | begin {i : Nat} {u : WorkUnit} (unit : f.units[i]? = some u) (ready : u.phase = .ready) :
      Immediate f (.begin i)
  | take {i : Nat} {u : WorkUnit} (unit : f.units[i]? = some u) (queued : u.phase = .queued)
      (free : 0 < f.idle)
      (first : ∀ j < i, ∀ v, f.units[j]? = some v → v.phase ≠ .queued) : Immediate f (.take i)

/-- Where a unit is in the queue of a floor with an idle worker, one of the queue gets a worker. -/
theorem exists_take (hu : f.units[i]? = some u) (hq : u.phase = .queued) (hfree : 0 < f.idle) :
    ∃ j, Immediate f (.take j) := by
  induction i using Nat.strongRecOn generalizing u with
  | ind i ih =>
    by_cases hbefore : ∃ j < i, ∃ v, f.units[j]? = some v ∧ v.phase = .queued
    · obtain ⟨j, hj, v, hv, hq'⟩ := hbefore
      exact ih j hj hv hq'
    · exact ⟨i, .take hu hq hfree fun j hj v hv hq' => hbefore ⟨j, hj, v, hv, hq'⟩⟩

/-- On a settled floor with a queue no worker is idle. -/
theorem idle_of_settled (hsettled : ∀ e, ¬ Immediate f e) (hu : f.units[i]? = some u)
    (hq : u.phase = .queued) : f.idle = 0 := by
  by_contra hidle
  obtain ⟨j, hj⟩ := exists_take hu hq (Nat.pos_of_ne_zero hidle)
  exact hsettled _ hj

theorem immediate_of_some (h : f.immediate? = some e) : Immediate f e := by
  unfold Floor.immediate? at h
  simp only [Option.orElse_eq_orElse, Option.orElse_eq_or, Option.or_eq_some_iff,
    Option.map_eq_some_iff] at h
  rcases h with ⟨i, hi, rfl⟩ | ⟨-, ⟨i, hi, rfl⟩ | ⟨-, ⟨i, hi, rfl⟩ | ⟨-, h⟩⟩⟩
  · obtain ⟨u, hu, hp, -⟩ := findIdx?_eq_some hi
    rw [Bool.and_eq_true, Option.isNone_iff_eq_none] at hp
    exact .collect hu hp.1 hp.2
  · obtain ⟨u, hu, hp, -⟩ := findIdx?_eq_some hi
    rw [Bool.and_eq_true, beq_iff_eq, WorkUnit.abandoned_iff] at hp
    exact .notice hu hp.1 hp.2
  · obtain ⟨u, hu, hp, -⟩ := findIdx?_eq_some hi
    exact .begin hu (beq_iff_eq.mp hp)
  · split at h
    · rename_i hfree
      obtain ⟨i, hi, rfl⟩ := Option.map_eq_some_iff.mp h
      obtain ⟨u, hu, hp, hfirst⟩ := findIdx?_eq_some hi
      exact .take hu (beq_iff_eq.mp hp) hfree fun j hj v hv => by simpa using hfirst j hj v hv
    · exact absurd h (by simp)

/-- **Where nothing is picked nothing can happen at once.** -/
theorem immediate?_eq_none_iff : f.immediate? = none ↔ ∀ e, ¬ Immediate f e := by
  constructor
  · intro h e he
    unfold Floor.immediate? at h
    simp only [Option.orElse_eq_orElse, Option.orElse_eq_or, Option.or_eq_none_iff,
      Option.map_eq_none_iff] at h
    obtain ⟨hcollect, hnotice, hbegin, htake⟩ := h
    cases he with
    | collect hu hnone hreply =>
      have hp := findIdx?_eq_none hcollect hu
      rw [hnone, hreply] at hp
      exact absurd hp (by simp)
    | notice hu hw hleft =>
      have hp := findIdx?_eq_none hnotice hu
      rw [hw, WorkUnit.abandoned_iff.mpr hleft] at hp
      exact absurd hp (by simp)
    | begin hu hready =>
      have hp := findIdx?_eq_none hbegin hu
      rw [hready] at hp
      exact absurd hp (by simp)
    | take hu hq hfree =>
      rw [if_pos hfree, Option.map_eq_none_iff] at htake
      have hp := findIdx?_eq_none htake hu
      rw [hq] at hp
      exact absurd hp (by simp)
  · intro h
    cases he : f.immediate? with
    | none => rfl
    | some e => exact absurd (immediate_of_some he) (h e)

/-! ## One event less -/

/-- A unit that has yet to get a worker. -/
def WorkUnit.awaitsWorker (u : WorkUnit) : Bool := u.phase == .queued

/-- A unit that has yet to begin, or to notice that its caller has left. -/
def WorkUnit.awaitsTurn (u : WorkUnit) : Bool :=
  u.phase == .queued || u.phase == .ready || u.phase == .waiting && u.abandoned

/-- A unit whose caller has yet to leave. -/
def WorkUnit.awaited (u : WorkUnit) : Bool := u.ending?.isNone

/-- The events that the units of the floor can still take part in without waiting. -/
def Floor.pressing (f : Floor) : Nat :=
  f.units.countP WorkUnit.awaitsWorker + f.units.countP WorkUnit.awaitsTurn +
    f.units.countP WorkUnit.awaited

theorem Floor.pressing_le (f : Floor) : f.pressing ≤ 4 * f.units.length := by
  have h₁ := List.countP_le_length (p := WorkUnit.awaitsWorker) (l := f.units)
  have h₂ := List.countP_le_length (p := WorkUnit.awaitsTurn) (l := f.units)
  have h₃ := List.countP_le_length (p := WorkUnit.awaited) (l := f.units)
  unfold Floor.pressing
  omega

/-- What a unit still awaits. -/
def WorkUnit.awaits (u : WorkUnit) : Nat :=
  (if u.awaitsWorker then 1 else 0) + (if u.awaitsTurn then 1 else 0) + if u.awaited then 1 else 0

theorem MovesOn.pressing (h : MovesOn script f e g i u u' texts) :
    g.pressing + u.awaits = f.pressing + u'.awaits := by
  have h₁ := h.countP WorkUnit.awaitsWorker
  have h₂ := h.countP WorkUnit.awaitsTurn
  have h₃ := h.countP WorkUnit.awaited
  unfold Floor.pressing WorkUnit.awaits
  omega

/-- **What is picked happens**, and there is one event less that can happen without waiting. -/
theorem step_of_immediate (script : Script) (h : Immediate f e) : ∃ g i u u' texts,
    f.step script e = some g ∧ MovesOn script f e g i u u' texts ∧ g.pressing + 1 = f.pressing := by
  obtain ⟨i, u, u', texts, hu, hmoves, hfree, hless⟩ : ∃ i u u' texts, f.units[i]? = some u ∧
      Moves script i u e u' texts ∧ (e = .take i → 0 < f.idle) ∧ u.awaits = u'.awaits + 1 := by
    cases h with
    | @collect i u hu hnone hreply =>
      obtain ⟨reply, hreply⟩ := Option.isSome_iff_exists.mp hreply
      refine ⟨i, u, _, _, hu, .collect hnone hreply, by simp, ?_⟩
      simp [WorkUnit.awaits, WorkUnit.awaitsWorker, WorkUnit.awaitsTurn, WorkUnit.awaited,
        WorkUnit.abandoned, hnone]
    | @notice i u hu hw hleft =>
      refine ⟨i, u, _, _, hu, .notice hw hleft, by simp, ?_⟩
      simp [WorkUnit.awaits, WorkUnit.awaitsWorker, WorkUnit.awaitsTurn, WorkUnit.awaited,
        WorkUnit.abandoned, hw, hleft]
    | @begin i u hu hready =>
      by_cases hleft : u.ending? = some .timedOut
      · refine ⟨i, u, _, _, hu, .refuse hready hleft, by simp, ?_⟩
        simp [WorkUnit.awaits, WorkUnit.awaitsWorker, WorkUnit.awaitsTurn, WorkUnit.awaited,
          WorkUnit.finished, hready, hleft]
      · have hhere : u.abandoned = false := by rwa [← Bool.not_eq_true, WorkUnit.abandoned_iff]
        cases hslow : script.waits u.request.sql with
        | false =>
          refine ⟨i, u, _, _, hu, .reply hready hleft hslow, by simp, ?_⟩
          simp [WorkUnit.awaits, WorkUnit.awaitsWorker, WorkUnit.awaitsTurn, WorkUnit.awaited,
            WorkUnit.finished, hready]
          omega
        | true =>
          refine ⟨i, u, _, _, hu, .wait hready hleft hslow, by simp, ?_⟩
          simp [WorkUnit.awaits, WorkUnit.awaitsWorker, WorkUnit.awaitsTurn, WorkUnit.awaited,
            WorkUnit.abandoned_phase, hready, hhere]
          omega
    | @take i u hu hq hfree =>
      refine ⟨i, u, _, _, hu, .take hq, fun _ => hfree, ?_⟩
      simp [WorkUnit.awaits, WorkUnit.awaitsWorker, WorkUnit.awaitsTurn, WorkUnit.awaited, hq]
      omega
  obtain ⟨g, hstep, hon⟩ := exists_step script hu hmoves hfree
  have hpressing := hon.pressing
  exact ⟨g, i, u, u', texts, hstep, hon, by omega⟩

/-! ## What a timeline does -/

/-- What happens now, if the floor allows it. -/
theorem happen_of_step (h : t.floor.step pace.script e = some g) :
    t.happen pace e = { t with
      floor := g
      timers := t.timers ++ (t.timerOf? pace g e).toList
      departures := t.departures ++ ((Timeline.leaver? e).map (·, t.now)).toList } := by
  unfold Timeline.happen
  rw [h]

theorem happen_of_refused (h : t.floor.step pace.script e = none) : t.happen pace e = t := by
  unfold Timeline.happen
  rw [h]

/-- **What is kept by each event that is picked is kept while the floor settles.** -/
theorem settleIn_induction {P : Timeline → Prop}
    (next : ∀ {t e}, Immediate t.floor e → P t → P (t.happen pace e)) :
    ∀ (fuel : Nat) {t : Timeline}, P t → P (t.settleIn pace fuel) := by
  intro fuel
  induction fuel with
  | zero => exact fun h => h
  | succ fuel ih =>
    intro t h
    rw [Timeline.settleIn]
    split
    · rename_i e he
      exact ih (next (immediate_of_some he) h)
    · exact h

/-- **A settled floor is settled**: the fuel is enough for everything that needs no waiting. -/
theorem settle_settled (pace : Pace) (t : Timeline) (e : FloorEvent) :
    ¬ Immediate (t.settle pace).floor e := by
  have hfuel : ∀ (fuel : Nat) (t : Timeline), t.floor.pressing ≤ fuel →
      (t.settleIn pace fuel).floor.immediate? = none := by
    intro fuel
    induction fuel with
    | zero =>
      intro t hle
      rw [Timeline.settleIn]
      refine immediate?_eq_none_iff.mpr fun e he => ?_
      obtain ⟨g, i, u, u', texts, -, -, hless⟩ := step_of_immediate pace.script he
      rw [Nat.le_zero.mp hle] at hless
      exact absurd hless (Nat.succ_ne_zero _)
    | succ fuel ih =>
      intro t hle
      rw [Timeline.settleIn]
      split
      · rename_i e he
        obtain ⟨g, i, u, u', texts, hstep, -, hless⟩ :=
          step_of_immediate pace.script (immediate_of_some he)
        refine ih _ ?_
        rw [happen_of_step hstep]
        show g.pressing ≤ fuel
        omega
      · assumption
  exact immediate?_eq_none_iff.mp (hfuel _ t t.floor.pressing_le) e

/-! ## Who has left stays away -/

/-- The callers that have left the floor `f` have left `g` with the same endings. -/
def Stays (f g : Floor) : Prop :=
  ∀ (i : Nat) (u : WorkUnit) (ending : Ending), f.units[i]? = some u → u.ending? = some ending →
    ∃ v, g.units[i]? = some v ∧ v.ending? = some ending

theorem stays_refl (f : Floor) : Stays f f := fun _ u _ hu hleft => ⟨u, hu, hleft⟩

theorem Stays.trans {h : Floor} (hfg : Stays f g) (hgh : Stays g h) : Stays f h := by
  intro i u ending hu hleft
  obtain ⟨v, hv, hleft'⟩ := hfg i u ending hu hleft
  exact hgh i v ending hv hleft'

theorem stays_happen (pace : Pace) (t : Timeline) (e : FloorEvent) :
    Stays t.floor (t.happen pace e).floor := by
  cases hstep : t.floor.step pace.script e with
  | none =>
    rw [happen_of_refused hstep]
    exact stays_refl _
  | some g =>
    rw [happen_of_step hstep]
    intro i u ending hu hleft
    rcases (happens_of_step hstep).unit hu with ⟨-, hu', -⟩ | ⟨u', texts, hmoves, hu', -⟩
    · exact ⟨u, hu', hleft⟩
    · exact ⟨u', hu', hmoves.ending hleft⟩

theorem stays_fold (pace : Pace) (timers : List Timer) (t : Timeline) :
    Stays t.floor (timers.foldl (fun t timer => t.happen pace timer.event) t).floor := by
  induction timers generalizing t with
  | nil => exact stays_refl _
  | cons timer timers ih => exact (stays_happen pace t timer.event).trans (ih _)

theorem stays_settle (pace : Pace) (t : Timeline) : Stays t.floor (t.settle pace).floor :=
  settleIn_induction (P := fun t' => Stays t.floor t'.floor)
    (fun _ h => h.trans (stays_happen pace _ _)) _ (stays_refl _)

theorem stays_fire (pace : Pace) (t : Timeline) (time : Nat) :
    Stays t.floor (t.fire pace time).floor :=
  stays_fold pace (t.timers.filter (·.due ≤ time))
    { t with now := time, timers := t.timers.filter (¬ ·.due ≤ time) }

theorem stays_runIn (pace : Pace) (stop : Timeline → Nat → Bool) (fuel : Nat) (t : Timeline) :
    Stays t.floor (t.runIn pace stop fuel).floor := by
  induction fuel generalizing t with
  | zero => exact stays_settle pace t
  | succ fuel ih =>
    rw [Timeline.runIn]
    have hsettle := stays_settle pace t
    split
    · exact hsettle
    · rename_i due _
      split
      · exact hsettle
      · exact hsettle.trans ((stays_fire pace _ due).trans (ih _))

end QueryGate
