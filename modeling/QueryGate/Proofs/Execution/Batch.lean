import QueryGate.Proofs.Execution.Settling
import QueryGate.Proofs.Execution.Shifts
import QueryGate.Proofs.Execution.Workers

/-!
# Requests that come together

Requests that are handed in together to idle workers get them in turn, and each caller waits for its
answer until the one deadline that all of them have. This file is about the floor before that
deadline.

* `Batch`: requests that come together, and where they come to.
* `InShift b T f`: how the floor of a batch stands at the time `T`, before the deadline.

Results:
* `InShift.start_le`, `InShift.le_start`: the head of the queue gets a worker when, and not before,
  one is idle, which is the time `Batch.start` of it.
* `InShift.move`, `InShift.later`: the events of the floor, and the time that passes between them,
  keep the shift.
-/

namespace QueryGate

/-- Requests that are handed in together to idle workers. -/
structure Batch where
  pace : Pace
  workers : Nat
  requests : List Request

namespace Batch

/-- The time that each answer takes. -/
def delays (b : Batch) : List Nat := b.requests.map fun r => b.pace.script.delay r.sql

/-- When request `i` gets a worker. -/
def start (b : Batch) (i : Nat) : Nat := startOf b.workers b.delays i

/-- When request `i` is answered, if its caller waits. -/
def stop (b : Batch) (i : Nat) : Nat := endOf b.workers b.delays i

/-- How the caller of a request that comes in place `i` leaves. -/
def ending (b : Batch) (i : Nat) (r : Request) : Ending :=
  if b.stop i < b.pace.deadline then .answered (b.pace.script.reply r.sql) else .timedOut

/-- The timers of the callers' deadlines. -/
def deadlines (b : Batch) : List Timer :=
  (List.range b.requests.length).map fun i => ⟨b.pace.deadline, .expire i⟩

variable {b : Batch} {i : Nat} {r : Request}

theorem stop_eq (h : b.requests[i]? = some r) :
    b.stop i = b.start i + b.pace.script.delay r.sql := by
  unfold stop endOf start delays
  rw [List.getD_eq_getElem?_getD, List.getElem?_map, h]
  rfl

theorem getElem?_endTimes (h : i < b.requests.length) :
    (endTimes b.workers b.delays)[i]? = some (b.stop i) :=
  QueryGate.getElem?_endTimes (by rwa [delays, List.length_map])

end Batch

theorem Script.delay_of_quick {script : Script} {sql : Sql} (h : script.waits sql = false) :
    script.delay sql = 0 := by
  unfold Script.waits at h
  unfold Script.delay
  cases hr : script.response sql with
  | wait ms next => rw [hr] at h; exact absurd h (by simp [Response.waits])
  | run answer => rfl
  | fail message => rfl

/-- A count is bounded by another one if each that it counts is counted there at the same place. -/
theorem countP_le_of_getElem? {α β : Type} {p : α → Bool} {q : β → Bool} :
    ∀ {l : List α} {l' : List β},
      (∀ (j : Nat) (a : α), l[j]? = some a → p a = true → ∃ b, l'[j]? = some b ∧ q b = true) →
      l.countP p ≤ l'.countP q := by
  intro l
  induction l with
  | nil => intro l' _; exact Nat.zero_le _
  | cons a l ih =>
    intro l' h
    cases l' with
    | nil =>
      refine Nat.le_of_eq (List.countP_eq_zero.mpr fun x hx hp => ?_)
      obtain ⟨j, hj⟩ := List.mem_iff_getElem?.mp hx
      obtain ⟨y, hy, -⟩ := h j x hj hp
      exact absurd hy (by simp)
    | cons b l' =>
      have htail : l.countP p ≤ l'.countP q := ih fun j x hj hp => h (j + 1) x hj hp
      rw [List.countP_cons, List.countP_cons]
      by_cases hp : p a = true
      · obtain ⟨y, hy, hq⟩ := h 0 a rfl hp
        obtain rfl := Option.some.inj hy
        rw [if_pos hp, if_pos hq]
        omega
      · rw [if_neg hp]
        omega

/-! ## The floor before the deadline -/

/-- How the unit in place `i` stands at the time `T`. -/
structure OnTime (b : Batch) (T i : Nat) (u : WorkUnit) : Prop where
  request : b.requests[i]? = some u.request
  here : u.ending? ≠ some .timedOut
  queued : u.phase = .queued → T ≤ b.start i
  ready : u.phase = .ready → T = b.start i
  waiting : u.phase = .waiting → T ≤ b.stop i
  finished : u.phase = .finished → b.stop i ≤ T

/-- How the floor stands at the time `T`. -/
structure InShift (b : Batch) (T : Nat) (f : Floor) : Prop where
  stands : Stands b.pace.script f
  balanced : Balanced b.workers f
  length : f.units.length = b.requests.length
  unit : ∀ {i : Nat} {u : WorkUnit}, f.units[i]? = some u → OnTime b T i u
  fifo : ∀ {i j : Nat} {u v : WorkUnit}, i < j → f.units[i]? = some u → u.phase = .queued →
    f.units[j]? = some v → v.phase = .queued

section Floor

variable {b : Batch} {script : Script} {T T' i : Nat} {f g : Floor} {e : FloorEvent}
  {u u' : WorkUnit} {texts : List Sql}

theorem InShift.not_cleaning (h : InShift b T f) (hu : f.units[i]? = some u) :
    u.phase ≠ .cleaning :=
  fun hc => (h.unit hu).here ((h.stands.unit hu).left hc)

theorem InShift.getElem? (h : InShift b T f) {j : Nat} (hj : j < i)
    (hi : i < f.units.length) : ((endTimes b.workers b.delays).take i)[j]? = some (b.stop j) := by
  rw [List.getElem?_take_of_lt hj]
  exact b.getElem?_endTimes (by rw [← h.length]; omega)

/-- **The first of the queue starts as soon as a worker is idle.** -/
theorem InShift.start_le (h : InShift b T f) (hu : f.units[i]? = some u) (hfree : 0 < f.idle)
    (hfirst : ∀ j < i, ∀ v, f.units[j]? = some v → v.phase ≠ .queued) : b.start i ≤ T := by
  have hi := (List.getElem?_eq_some_iff.mp hu).1
  have hcount : ((endTimes b.workers b.delays).take i).countP (T < ·) ≤ f.holders := by
    refine countP_le_of_getElem? fun j stop hj hlate => ?_
    have hji : j < i := by
      have := (List.getElem?_eq_some_iff.mp hj).1
      rw [List.length_take] at this
      omega
    obtain rfl := Option.some.inj ((h.getElem? hji hi).symm.trans hj)
    obtain ⟨v, hv⟩ : ∃ v, f.units[j]? = some v :=
      ⟨_, List.getElem?_eq_getElem (Nat.lt_trans hji hi)⟩
    refine ⟨v, hv, ?_⟩
    rw [decide_eq_true_eq] at hlate
    cases hphase : v.phase with
    | queued => exact absurd hphase (hfirst j hji v hv)
    | finished =>
      have := (h.unit hv).finished hphase
      omega
    | ready => rfl
    | waiting => rfl
    | cleaning => rfl
  refine startOf_le_iff.mpr (Nat.lt_of_le_of_lt hcount ?_)
  have := h.balanced.workers
  have := h.balanced.size
  omega

/-- **The queue waits while all workers are held**: as long as no answer comes. -/
theorem InShift.le_start (h : InShift b T f) (hu : f.units[i]? = some u) (hq : u.phase = .queued)
    (hsettled : ∀ e, ¬ Immediate f e)
    (hwaiting : ∀ (j : Nat) (v : WorkUnit), f.units[j]? = some v → v.phase = .waiting →
      T' ≤ b.stop j) : T' ≤ b.start i := by
  by_contra hlt
  have hi := (List.getElem?_eq_some_iff.mp hu).1
  have hfew := startOf_le_iff.mp (show b.start i ≤ T' - 1 by omega)
  have hcount : f.holders ≤ ((endTimes b.workers b.delays).take i).countP (T' - 1 < ·) := by
    refine countP_le_of_getElem? fun j v hv hholds => ?_
    have hphase : v.phase = .waiting := by
      cases hphase : v.phase with
      | waiting => rfl
      | ready => exact absurd (.begin hv hphase) (hsettled _)
      | cleaning => exact absurd hphase (h.not_cleaning hv)
      | queued | finished =>
        rw [hphase] at hholds
        exact absurd hholds (by simp [Phase.holdsWorker])
    have hji : j < i := by
      rcases Nat.lt_trichotomy j i with hlt | rfl | hgt
      · exact hlt
      · obtain rfl := Option.some.inj (hu.symm.trans hv)
        rw [hq] at hphase
        exact absurd hphase (by simp)
      · rw [h.fifo hgt hu hq hv] at hphase
        exact absurd hphase (by simp)
    refine ⟨_, h.getElem? hji hi, ?_⟩
    have := hwaiting j v hv hphase
    rw [decide_eq_true_eq]
    omega
  have hidle := idle_of_settled hsettled hu hq
  have := h.balanced.workers
  have := h.balanced.size
  omega

/-- **Time passes over a settled floor** up to the next answer. -/
theorem InShift.later (h : InShift b T f) (hsettled : ∀ e, ¬ Immediate f e) (hle : T ≤ T')
    (hwaiting : ∀ (j : Nat) (v : WorkUnit), f.units[j]? = some v → v.phase = .waiting →
      T' ≤ b.stop j) : InShift b T' f := by
  refine ⟨h.stands, h.balanced, h.length, fun {i u} hu => ?_, h.fifo⟩
  have hon := h.unit hu
  exact {
    request := hon.request
    here := hon.here
    queued := fun hq => h.le_start hu hq hsettled hwaiting
    ready := fun hr => absurd (.begin hu hr) (hsettled _)
    waiting := hwaiting i u hu
    finished := fun hf => Nat.le_trans (hon.finished hf) hle }

/-- A unit leaves the queue only with a worker. -/
theorem Moves.queued_iff (h : Moves script i u e u' texts) (hne : e ≠ .take i) :
    u'.phase = .queued ↔ u.phase = .queued := by
  cases h with
  | take => exact absurd rfl hne
  | refuse hp | reply hp | wait hp | answer hp | notice hp | release hp =>
    simp [WorkUnit.finished, hp]
  | collect | expire => exact Iff.rfl

/-- The unit that takes part in an event is in time after it, if the head of the queue moves up and
an answer comes at its time. -/
theorem InShift.unit_move (h : InShift b T f) (hon : MovesOn b.pace.script f e g i u u' texts)
    (hfirst : e = .take i → ∀ j < i, ∀ v, f.units[j]? = some v → v.phase ≠ .queued)
    (hdue : e = .answer i → b.stop i ≤ T) (hearly : e ≠ .expire i) : OnTime b T i u' := by
  have hu := h.unit hon.unit
  have hstop := b.stop_eq hu.request
  cases hon.moves with
  | take hq =>
    have hfree : 0 < f.idle := by
      have hworkers := hon.workers
      rw [WorkUnit.workers, WorkUnit.workers, hq] at hworkers
      simp only [Phase.holdsWorker, if_true, Bool.false_eq_true, if_false] at hworkers
      omega
    have hnow := h.start_le hon.unit hfree (hfirst rfl)
    have := hu.queued hq
    exact ⟨hu.request, hu.here, by simp, fun _ => by omega, by simp, by simp⟩
  | refuse _ hleft => exact absurd hleft hu.here
  | reply hready _ hquick =>
    have hnow := hu.ready hready
    rw [Script.delay_of_quick hquick, Nat.add_zero] at hstop
    exact ⟨hu.request, hu.here, by simp [WorkUnit.finished], by simp [WorkUnit.finished],
      by simp [WorkUnit.finished], fun _ => by omega⟩
  | wait hready =>
    have hnow := hu.ready hready
    exact ⟨hu.request, hu.here, by simp, by simp, fun _ => by omega, by simp⟩
  | answer hw =>
    exact ⟨hu.request, hu.here, by simp [WorkUnit.finished], by simp [WorkUnit.finished],
      by simp [WorkUnit.finished], fun _ => hdue rfl⟩
  | notice _ hleft => exact absurd hleft hu.here
  | release hc => exact absurd hc (h.not_cleaning hon.unit)
  | collect => exact ⟨hu.request, by simp, hu.queued, hu.ready, hu.waiting, hu.finished⟩
  | expire => exact absurd rfl hearly

/-- **An event keeps the shift**, if it is no deadline's. -/
theorem InShift.move (h : InShift b T f) (hon : MovesOn b.pace.script f e g i u u' texts)
    (hfirst : e = .take i → ∀ j < i, ∀ v, f.units[j]? = some v → v.phase ≠ .queued)
    (hdue : e = .answer i → b.stop i ≤ T) (hearly : e ≠ .expire i) : InShift b T g := by
  -- the queue of `g` is that of `f`, but for its head if that gets a worker
  have hbefore : ∀ {j : Nat} {v : WorkUnit}, g.units[j]? = some v → v.phase = .queued →
      ∃ w, f.units[j]? = some w ∧ w.phase = .queued := by
    intro j v hv hq
    by_cases hj : j = i
    · subst hj
      obtain rfl := Option.some.inj (hon.self.symm.trans hv)
      by_cases htake : e = .take j
      · subst htake
        cases hon.moves
        exact absurd hq (by simp)
      · exact ⟨u, hon.unit, (hon.moves.queued_iff htake).mp hq⟩
    · exact ⟨v, hon.other hj ▸ hv, hq⟩
  refine ⟨(Happens.move hon).stands h.stands, (Happens.move hon).balanced h.balanced, ?_, ?_, ?_⟩
  · rw [hon.units, List.length_set, h.length]
  · intro j v hv
    by_cases hj : j = i
    · subst hj
      obtain rfl := Option.some.inj (hon.self.symm.trans hv)
      exact h.unit_move hon hfirst hdue hearly
    · exact h.unit (hon.other hj ▸ hv)
  · intro j k v w hjk hv hq hw
    obtain ⟨v', hv', hq'⟩ := hbefore hv hq
    by_cases hk : k = i
    · subst hk
      obtain rfl := Option.some.inj (hon.self.symm.trans hw)
      have htake : e ≠ .take k := fun he => hfirst he j hjk v' hv' hq'
      exact (hon.moves.queued_iff htake).mpr (h.fifo hjk hv' hq' hon.unit)
    · exact h.fifo hjk hv' hq' (hon.other hk ▸ hw)

end Floor

end QueryGate
