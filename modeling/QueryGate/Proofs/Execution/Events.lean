import Mathlib.Data.List.Induction
import QueryGate.Execution.Floor

/-!
# What an event does

Every event on the floor but an arrival and an administrator's statement is an event of one unit.
It changes that unit and what the database saw of it, it moves a worker to or from the unit, and it
leaves the rest of the floor as it was.

* `Moves script i u e u' texts`: in the event `e` the unit `i` goes from `u` to `u'` and sends
  `texts` to the database.
* `Happens script f e g`: the event `e` takes the floor `f` to `g`; one case for an arrival, one for
  an administrator's statement, and one for a unit that moves.
* `Floor.sent f i`: the texts that unit `i` sent to the database.

Results:
* `happens_of_step`, `exists_step`: what `Floor.step` does, and when it does it.
* `Happens.place`, `Happens.unit`: what happens at one place of the floor, and to a unit there.
* `run_induction`: what holds at the start of a run and is kept by every event holds at its end.
* `tally_concat`: a count along a run, event by event.
-/

namespace QueryGate

/-- The unit that takes part in an event. -/
def FloorEvent.unit? : FloorEvent → Option Nat
  | .arrive _ => none
  | .take i => some i
  | .begin i => some i
  | .answer i => some i
  | .notice i => some i
  | .release i => some i
  | .collect i => some i
  | .expire i => some i
  | .admin _ => none

namespace WorkUnit

theorem abandoned_iff {u : WorkUnit} : u.abandoned = true ↔ u.ending? = some .timedOut := by
  unfold abandoned
  split
  · rename_i h
    exact iff_of_true rfl h
  · rename_i h
    exact iff_of_false Bool.false_ne_true fun h' => h h'

/-- The unit with a reply of its own. -/
def finished (u : WorkUnit) (reply : Reply) : WorkUnit :=
  { u with phase := .finished, reply? := some reply }

/-- Whether a unit is abandoned does not depend on what it is doing. -/
theorem abandoned_phase (u : WorkUnit) (phase : Phase) :
    { u with phase }.abandoned = u.abandoned := rfl

/-- The workers that the unit holds. -/
def workers (u : WorkUnit) : Nat := if u.phase.holdsWorker then 1 else 0

theorem workers_of_holds {u : WorkUnit} (h : u.phase.holdsWorker = true) : u.workers = 1 := if_pos h

end WorkUnit

/-! ## Events of a unit -/

/-- In the event `e` the unit `i` goes from `u` to `u'` and sends some texts to the database. -/
inductive Moves (script : Script) (i : Nat) (u : WorkUnit) :
    FloorEvent → WorkUnit → List Sql → Prop
  | take (queued : u.phase = .queued) : Moves script i u (.take i) { u with phase := .ready } []
  | refuse (ready : u.phase = .ready) (left : u.ending? = some .timedOut) :
      Moves script i u (.begin i) (u.finished (.error abandonedFailure)) []
  | reply (ready : u.phase = .ready) (here : u.ending? ≠ some .timedOut)
      (quick : script.waits u.request.sql = false) :
      Moves script i u (.begin i) (u.finished (script.reply u.request.sql)) [u.request.sql]
  | wait (ready : u.phase = .ready) (here : u.ending? ≠ some .timedOut)
      (slow : script.waits u.request.sql = true) :
      Moves script i u (.begin i) { u with phase := .waiting } [u.request.sql]
  | answer (waiting : u.phase = .waiting) (here : u.ending? ≠ some .timedOut) :
      Moves script i u (.answer i) (u.finished (script.reply u.request.sql)) []
  | notice (waiting : u.phase = .waiting) (left : u.ending? = some .timedOut) :
      Moves script i u (.notice i) { u with phase := .cleaning } []
  | release (cleaning : u.phase = .cleaning) :
      Moves script i u (.release i) (u.finished (.error abandonedFailure)) []
  | collect {reply : Reply} (here : u.ending? = none) (replied : u.reply? = some reply) :
      Moves script i u (.collect i) { u with ending? := some (.answered reply) } []
  | expire (here : u.ending? = none) :
      Moves script i u (.expire i) { u with ending? := some .timedOut } []

variable {script : Script} {f g : Floor} {e : FloorEvent} {i : Nat} {u u' v : WorkUnit}
  {texts : List Sql}

theorem Moves.unit? (h : Moves script i u e u' texts) : e.unit? = some i := by
  cases h <;> rfl

theorem Moves.request (h : Moves script i u e u' texts) : u'.request = u.request := by
  cases h <;> rfl

/-- An event does one thing to a unit. -/
theorem Moves.unique {v : WorkUnit} {texts' : List Sql} (h : Moves script i u e u' texts)
    (h' : Moves script i u e v texts') : u' = v ∧ texts = texts' := by
  cases h with
  | refuse _ hleft => cases h' <;> simp_all
  | reply _ hhere hquick => cases h' <;> simp_all
  | wait _ hhere hslow => cases h' <;> simp_all
  | collect _ hreply => cases h'; simp_all
  | _ => cases h'; exact ⟨rfl, rfl⟩

/-- One unit of the floor takes part in an event. -/
structure MovesOn (script : Script) (f : Floor) (e : FloorEvent) (g : Floor) (i : Nat)
    (u u' : WorkUnit) (texts : List Sql) : Prop where
  unit : f.units[i]? = some u
  moves : Moves script i u e u' texts
  units : g.units = f.units.set i u'
  workers : g.idle + u'.workers = f.idle + u.workers
  calls : g.calls = f.calls ++ texts.map (some i, ·)
  letGo : g.letGo = f.letGo + if e = .release i then 1 else 0
  size : g.size = f.size

theorem MovesOn.self (h : MovesOn script f e g i u u' texts) : g.units[i]? = some u' := by
  rw [h.units, List.getElem?_set_self (List.getElem?_eq_some_iff.mp h.unit).1]

theorem MovesOn.other (h : MovesOn script f e g i u u' texts) {j : Nat} (hj : j ≠ i) :
    g.units[j]? = f.units[j]? := by
  rw [h.units, List.getElem?_set_ne (Ne.symm hj)]

/-- A count of units changes by the unit that moves. -/
theorem MovesOn.countP (h : MovesOn script f e g i u u' texts) (p : WorkUnit → Bool) :
    g.units.countP p + (if p u then 1 else 0) = f.units.countP p + if p u' then 1 else 0 := by
  obtain ⟨hlt, hget⟩ := List.getElem?_eq_some_iff.mp h.unit
  have hpos : (if p u then 1 else 0) ≤ f.units.countP p := by
    split
    · rename_i hp
      exact List.countP_pos_iff.mpr ⟨u, List.mem_of_getElem? h.unit, hp⟩
    · exact Nat.zero_le _
  rw [h.units, List.countP_set hlt, hget]
  omega

/-- The event `e` takes the floor `f` to `g`. -/
inductive Happens (script : Script) (f : Floor) : FloorEvent → Floor → Prop
  | arrive (request : Request) :
      Happens script f (.arrive request) { f with units := f.units ++ [{ request }] }
  | admin (sql : Sql) : Happens script f (.admin sql) { f with calls := f.calls ++ [(none, sql)] }
  | move {e : FloorEvent} {g : Floor} {i : Nat} {u u' : WorkUnit} {texts : List Sql}
      (on : MovesOn script f e g i u u' texts) : Happens script f e g

/-- A unit's event happens only if the unit can take part in it. -/
theorem movesOn_of_step (h : f.step script e = some g) (hi : e.unit? = some i) :
    ∃ u u' texts, MovesOn script f e g i u u' texts := by
  cases hu : f.units[i]? with
  | none => cases e <;> cases hi <;> simp [Floor.step, hu] at h
  | some u =>
    cases e with
    | arrive => exact absurd hi (by simp [FloorEvent.unit?])
    | admin => exact absurd hi (by simp [FloorEvent.unit?])
    | take j =>
      obtain rfl := Option.some.inj hi
      simp only [Floor.step, hu] at h
      split at h
      · rename_i hq
        obtain rfl := Option.some.inj h
        have hidle := Nat.sub_add_cancel hq.2
        refine ⟨u, _, _, hu, .take hq.1, rfl, ?_, (List.append_nil _).symm, rfl, rfl⟩
        simpa [WorkUnit.workers, Phase.holdsWorker, hq.1] using hidle
      · exact absurd h (by simp)
    | begin j =>
      obtain rfl := Option.some.inj hi
      simp only [Floor.step, hu] at h
      split at h
      · exact absurd h (by simp)
      · rename_i hready
        rw [Classical.not_not] at hready
        have hheld := WorkUnit.workers_of_holds (by rw [hready]; rfl)
        split at h
        · rename_i hleft
          obtain rfl := Option.some.inj h
          exact ⟨u, _, _, hu, .refuse hready (WorkUnit.abandoned_iff.mp hleft), rfl,
            by rw [hheld]; rfl, (List.append_nil _).symm, rfl, rfl⟩
        · rename_i hhere
          rw [WorkUnit.abandoned_iff] at hhere
          split at h
          · rename_i hslow
            obtain rfl := Option.some.inj h
            exact ⟨u, _, _, hu, .wait hready hhere hslow, rfl, by rw [hheld]; rfl, rfl, rfl, rfl⟩
          · rename_i hquick
            obtain rfl := Option.some.inj h
            exact ⟨u, _, _, hu, .reply hready hhere (by simpa using hquick), rfl,
              by rw [hheld]; rfl, rfl, rfl, rfl⟩
    | answer j =>
      obtain rfl := Option.some.inj hi
      simp only [Floor.step, hu] at h
      split at h
      · rename_i hw
        obtain rfl := Option.some.inj h
        have hheld := WorkUnit.workers_of_holds (by rw [hw.1]; rfl)
        exact ⟨u, _, _, hu, .answer hw.1 (mt WorkUnit.abandoned_iff.mpr hw.2), rfl,
          by rw [hheld]; rfl, (List.append_nil _).symm, rfl, rfl⟩
      · exact absurd h (by simp)
    | notice j =>
      obtain rfl := Option.some.inj hi
      simp only [Floor.step, hu] at h
      split at h
      · rename_i hw
        obtain rfl := Option.some.inj h
        have hheld := WorkUnit.workers_of_holds (by rw [hw.1]; rfl)
        exact ⟨u, _, _, hu, .notice hw.1 (WorkUnit.abandoned_iff.mp hw.2), rfl,
          by rw [hheld]; rfl, (List.append_nil _).symm, rfl, rfl⟩
      · exact absurd h (by simp)
    | release j =>
      obtain rfl := Option.some.inj hi
      simp only [Floor.step, hu] at h
      split at h
      · rename_i hc
        obtain rfl := Option.some.inj h
        have hheld := WorkUnit.workers_of_holds (by rw [hc]; rfl)
        exact ⟨u, _, _, hu, .release hc, rfl, by rw [hheld]; rfl, (List.append_nil _).symm,
          (if_pos rfl ▸ rfl), rfl⟩
      · exact absurd h (by simp)
    | collect j =>
      obtain rfl := Option.some.inj hi
      simp only [Floor.step, hu] at h
      split at h
      · rename_i hnone hreply
        obtain rfl := Option.some.inj h
        exact ⟨u, _, _, hu, .collect hnone hreply, rfl, rfl, (List.append_nil _).symm, rfl, rfl⟩
      · exact absurd h (by simp)
    | expire j =>
      obtain rfl := Option.some.inj hi
      simp only [Floor.step, hu] at h
      split at h
      · rename_i hnone
        obtain rfl := Option.some.inj h
        exact ⟨u, _, _, hu, .expire (Option.isNone_iff_eq_none.mp hnone), rfl, rfl,
          (List.append_nil _).symm, rfl, rfl⟩
      · exact absurd h (by simp)

/-- **A step is one of the things that can happen.** -/
theorem happens_of_step (h : f.step script e = some g) : Happens script f e g := by
  cases hi : e.unit? with
  | some i =>
    obtain ⟨u, u', texts, hon⟩ := movesOn_of_step h hi
    exact .move hon
  | none =>
    cases e with
    | arrive request =>
      obtain rfl := Option.some.inj h
      exact .arrive request
    | admin sql =>
      obtain rfl := Option.some.inj h
      exact .admin sql
    | _ => exact absurd hi (by simp [FloorEvent.unit?])

/-- **A unit that can take part in an event does**, if it finds a worker where it needs one. -/
theorem exists_step (script : Script) (hu : f.units[i]? = some u)
    (h : Moves script i u e u' texts) (hfree : e = .take i → 0 < f.idle) :
    ∃ g, f.step script e = some g ∧ MovesOn script f e g i u u' texts := by
  have hstep : ∃ g, f.step script e = some g := by
    cases h with
    | take hq => simp [Floor.step, hu, hq, hfree rfl]
    | refuse hready hleft => simp [Floor.step, hu, hready, WorkUnit.abandoned_iff.mpr hleft]
    | reply hready hhere hquick =>
      simp [Floor.step, hu, hready, mt WorkUnit.abandoned_iff.mp hhere, hquick]
    | wait hready hhere hslow =>
      simp [Floor.step, hu, hready, mt WorkUnit.abandoned_iff.mp hhere, hslow]
    | answer hw hhere => simp [Floor.step, hu, hw, mt WorkUnit.abandoned_iff.mp hhere]
    | notice hw hleft => simp [Floor.step, hu, hw, WorkUnit.abandoned_iff.mpr hleft]
    | release hc => simp [Floor.step, hu, hc]
    | collect hnone hreply => simp [Floor.step, hu, hnone, hreply]
    | expire hnone => simp [Floor.step, hu, hnone]
  obtain ⟨g, hg⟩ := hstep
  obtain ⟨w, w', texts', hon⟩ := movesOn_of_step hg h.unit?
  obtain rfl := Option.some.inj (hu.symm.trans hon.unit)
  obtain ⟨rfl, rfl⟩ := h.unique hon.moves
  exact ⟨g, hg, hon⟩

/-! ## What one unit sees of an event -/

namespace Floor

/-- The texts that unit `i` sent to the database. -/
def sent (f : Floor) (i : Nat) : List Sql :=
  f.calls.filterMap fun call => if call.1 = some i then some call.2 else none

theorem sent_of_calls {texts : List Sql} {j : Nat}
    (h : g.calls = f.calls ++ texts.map (some j, ·)) (i : Nat) :
    g.sent i = f.sent i ++ if j = i then texts else [] := by
  unfold sent
  rw [h, List.filterMap_append, List.filterMap_map]
  by_cases hi : j = i
  · simp only [Function.comp_def, hi, if_true, List.filterMap_some]
  · simp only [Function.comp_def, Option.some.injEq, hi, if_false]
    rw [List.filterMap_eq_nil_iff.mpr fun _ _ => rfl]

end Floor

/-- **What happens at one place of the floor**: its unit takes part in the event; or the event is
another's, and the unit stays as it is or has just arrived. -/
theorem Happens.place (h : Happens script f e g) (i : Nat) :
    (∃ u u' texts, MovesOn script f e g i u u' texts ∧ g.units[i]? = some u' ∧
        g.sent i = f.sent i ++ texts) ∨
      e.unit? ≠ some i ∧ g.sent i = f.sent i ∧
        (g.units[i]? = f.units[i]? ∨
          i = f.units.length ∧ ∃ request, g.units[i]? = some { request }) := by
  cases h with
  | arrive request =>
    refine Or.inr ⟨by simp [FloorEvent.unit?], rfl, ?_⟩
    rcases Nat.lt_trichotomy i f.units.length with hi | rfl | hi
    · exact Or.inl (List.getElem?_append_left hi)
    · exact Or.inr ⟨rfl, request, by simp⟩
    · refine Or.inl ?_
      have hnone : f.units[i]? = none := List.getElem?_eq_none (Nat.le_of_lt hi)
      rw [hnone]
      exact List.getElem?_eq_none (by rw [List.length_append]; exact hi)
  | admin sql => exact Or.inr ⟨by simp [FloorEvent.unit?], by simp [Floor.sent], Or.inl rfl⟩
  | @move e g j u u' texts hon =>
    have hsent := Floor.sent_of_calls hon.calls i
    by_cases hj : i = j
    · subst hj
      rw [if_pos rfl] at hsent
      exact Or.inl ⟨u, u', texts, hon, hon.self, hsent⟩
    · rw [if_neg (Ne.symm hj), List.append_nil] at hsent
      refine Or.inr ⟨?_, hsent, Or.inl (hon.other hj)⟩
      rw [hon.moves.unit?]
      exact fun h => hj (Option.some.inj h).symm

/-- **A unit sees its own events only.** -/
theorem Happens.unit (h : Happens script f e g) (hu : f.units[i]? = some u) :
    (e.unit? ≠ some i ∧ g.units[i]? = some u ∧ g.sent i = f.sent i) ∨
      ∃ u' texts, Moves script i u e u' texts ∧ g.units[i]? = some u' ∧
        g.sent i = f.sent i ++ texts := by
  rcases h.place i with ⟨w, u', texts, hon, hu', hsent⟩ | ⟨hne, hsent, hsame | ⟨rfl, -⟩⟩
  · obtain rfl : u = w := Option.some.inj (hu.symm.trans hon.unit)
    exact Or.inr ⟨u', texts, hon.moves, hu', hsent⟩
  · exact Or.inl ⟨hne, hsame.trans hu, hsent⟩
  · exact absurd hu (by simp)

/-! ## Runs -/

section Run

variable {es es' : List FloorEvent}

theorem steps_append (f : Floor) (es es' : List FloorEvent) :
    f.steps script (es ++ es') = (f.steps script es).bind (·.steps script es') := by
  induction es generalizing f with
  | nil => rfl
  | cons e es ih =>
    rw [List.cons_append, Floor.steps, Floor.steps]
    cases f.step script e with
    | none => rfl
    | some g => exact ih g

theorem steps_concat_eq_some_iff :
    f.steps script (es ++ [e]) = some g ↔
      ∃ h, f.steps script es = some h ∧ h.step script e = some g := by
  rw [steps_append, Option.bind_eq_some_iff]
  refine exists_congr fun h => and_congr_right fun _ => ?_
  rw [Floor.steps]
  cases h.step script e with
  | none => exact Iff.rfl
  | some k => exact Iff.rfl

/-- **What every event keeps holds throughout a run.** -/
theorem run_induction {P : List FloorEvent → Floor → Prop} (start : P [] f)
    (next : ∀ {es g e h}, f.steps script es = some g → g.step script e = some h → P es g →
      P (es ++ [e]) h) :
    ∀ {es g}, f.steps script es = some g → P es g := by
  intro es
  induction es using List.reverseRecOn with
  | nil =>
    intro g h
    obtain rfl := Option.some.inj h
    exact start
  | append_singleton es e ih =>
    intro g h
    obtain ⟨k, hrun, hstep⟩ := steps_concat_eq_some_iff.mp h
    exact next hrun hstep (ih hrun)

/-- Adds up what `count` gives for each event of a run, with the floors before and after it. -/
def tally (script : Script) (count : Floor → FloorEvent → Floor → Nat) :
    Floor → List FloorEvent → Nat
  | _, [] => 0
  | f, e :: es =>
    match f.step script e with
    | some g => count f e g + tally script count g es
    | none => 0

theorem tally_concat {count : Floor → FloorEvent → Floor → Nat}
    (hrun : f.steps script es = some g) {k : Floor} (hstep : g.step script e = some k) :
    tally script count f (es ++ [e]) = tally script count f es + count g e k := by
  induction es generalizing f with
  | nil =>
    obtain rfl := Option.some.inj hrun
    simp [tally, hstep]
  | cons e' es ih =>
    rw [Floor.steps, Option.bind_eq_some_iff] at hrun
    obtain ⟨f', hf, hrun⟩ := hrun
    rw [List.cons_append, tally, tally, hf]
    simp only [ih hrun, Nat.add_assoc]

end Run

end QueryGate
