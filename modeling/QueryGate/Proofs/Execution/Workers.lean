import QueryGate.Proofs.Execution.Standing

/-!
# Workers

A unit holds a worker from the moment it gets one until its own work is done, whoever still waits
for it. A caller whose deadline passes takes nothing back.

* `Balanced n f`: each of the `n` workers is idle or held by one unit.
* `returned script i f es`: how many workers become idle in the events of unit `i`.
* `AtRest script f`: no unit can go on.

Headline: **`workers_bounded`**: at any time at most `n` units hold a worker and the others are
idle; a unit has returned one worker if it is done and none before; an abandoned unit that was at
the database holds its worker until it has let go of its statement.
-/

namespace QueryGate

variable {script : Script} {f g : Floor} {e : FloorEvent} {i n : Nat} {u u' : WorkUnit}
  {sent texts : List Sql} {es : List FloorEvent}

/-! ## Every worker is idle or held -/

/-- Each of the workers, at least one, is idle or held by one unit. -/
structure Balanced (n : Nat) (f : Floor) : Prop where
  size : f.size = max 1 n
  workers : f.idle + f.holders = f.size

theorem balanced_ofSize (n : Nat) : Balanced n (.ofSize n) := ⟨rfl, rfl⟩

theorem MovesOn.holders (h : MovesOn script f e g i u u' texts) :
    g.holders + u.workers = f.holders + u'.workers :=
  h.countP (·.phase.holdsWorker)

/-- **An event makes no worker and loses none.** -/
theorem Happens.balanced (h : Happens script f e g) (hb : Balanced n f) : Balanced n g := by
  cases h with
  | arrive request => exact ⟨hb.size, by simpa [Floor.holders, Phase.holdsWorker] using hb.workers⟩
  | admin sql => exact ⟨hb.size, hb.workers⟩
  | move hon =>
    refine ⟨hon.size.trans hb.size, ?_⟩
    have hholders := hon.holders
    have hworkers := hon.workers
    have hbefore := hb.workers
    rw [hon.size]
    omega

/-! ## What a unit returns -/

/-- How many workers become idle in the events of unit `i`. -/
def returned (script : Script) (i : Nat) : Floor → List FloorEvent → Nat :=
  tally script fun f e g => if e.unit? = some i then g.idle - f.idle else 0

/-- The workers that a unit has returned: one, when it is done. -/
def WorkUnit.gave (u : WorkUnit) : Nat := if u.phase = .finished then 1 else 0

theorem Moves.gave (h : Moves script i u e u' texts) :
    u.gave + (u.workers - u'.workers) = u'.gave := by
  cases h with
  | take h | refuse h | reply h | wait h | answer h | notice h | release h =>
    simp [WorkUnit.gave, WorkUnit.workers, WorkUnit.finished, Phase.holdsWorker, h]
  | collect | expire => simp [WorkUnit.gave, WorkUnit.workers]

/-- The workers that unit `i` of the floor has returned. -/
def Floor.gaveAt (f : Floor) (i : Nat) : Nat := f.units[i]?.elim 0 WorkUnit.gave

/-- **A worker becomes idle in the event in which its unit is done**, and in no other. -/
theorem Happens.gaveAt (h : Happens script f e g) (i : Nat) :
    f.gaveAt i + (if e.unit? = some i then g.idle - f.idle else 0) = g.gaveAt i := by
  unfold Floor.gaveAt
  rcases h.place i with ⟨u, u', texts, hon, hu', -⟩ | ⟨hne, -, hsame | ⟨hi, request, hnew⟩⟩
  · have hidle : g.idle - f.idle = u.workers - u'.workers := by
      have := hon.workers
      omega
    rw [if_pos hon.moves.unit?, hidle, hon.unit, hu']
    exact hon.moves.gave
  · rw [if_neg hne, hsame, Nat.add_zero]
  · rw [if_neg hne, hnew, List.getElem?_eq_none (Nat.le_of_eq hi.symm)]
    rfl

/-- A unit has returned one worker if it is done, and none before. -/
theorem returned_eq (hrun : (Floor.ofSize n).steps script es = some f) (i : Nat) :
    returned script i (.ofSize n) es = f.gaveAt i := by
  refine run_induction (P := fun es f => returned script i (.ofSize n) es = f.gaveAt i) rfl ?_ hrun
  intro es f e g hrun hstep ih
  rw [returned, tally_concat hrun hstep, ← (happens_of_step hstep).gaveAt i, ← ih]
  rfl

/-! ## Abandoned units -/

/-- An abandoned unit that was at the database notices it and lets go of its statement; nothing
else happens to it. -/
theorem Moves.abandoned (h : Moves script i u e u' texts) (hleft : u.ending? = some .timedOut)
    (hphase : u.phase = .waiting ∨ u.phase = .cleaning ∨ u.phase = .finished) :
    e = .notice i ∧ u' = { u with phase := .cleaning } ∧ u.phase = .waiting ∨
      e = .release i ∧ u' = u.finished (.error abandonedFailure) ∧ u.phase = .cleaning := by
  cases h with
  | take hq | refuse hq | reply hq | wait hq => exact absurd hphase (by simp [hq])
  | answer _ hhere => exact absurd hleft hhere
  | notice hw => exact Or.inl ⟨rfl, rfl, hw⟩
  | release hc => exact Or.inr ⟨rfl, rfl, hc⟩
  | collect hnone | expire hnone => exact absurd (hnone.symm.trans hleft) (by simp)

/-- **An abandoned unit that was at the database holds its worker until it has let go** of its
statement. -/
theorem held_of_steps (hu : f.units[i]? = some u) (hleft : u.ending? = some .timedOut)
    (hphase : u.phase = .waiting ∨ u.phase = .cleaning) (hrun : f.steps script es = some g) :
    ∃ v, g.units[i]? = some v ∧ (v.phase.holdsWorker = true ↔ .release i ∉ es) := by
  have hinv : ∃ v, g.units[i]? = some v ∧ v.ending? = some .timedOut ∧
      ((v.phase = .waiting ∨ v.phase = .cleaning) ∧ .release i ∉ es ∨
        v.phase = .finished ∧ .release i ∈ es) := by
    refine run_induction (P := fun es g => ∃ v, g.units[i]? = some v ∧
      v.ending? = some .timedOut ∧ ((v.phase = .waiting ∨ v.phase = .cleaning) ∧ .release i ∉ es ∨
        v.phase = .finished ∧ .release i ∈ es)) ⟨u, hu, hleft, Or.inl ⟨hphase, by simp⟩⟩ ?_ hrun
    rintro es g e h - hstep ⟨v, hv, hleft, hphase⟩
    rcases (happens_of_step hstep).unit hv with ⟨hother, hv', -⟩ | ⟨v', texts, hmoves, hv', -⟩
    · refine ⟨v, hv', hleft, ?_⟩
      have hne : .release i ≠ e := fun heq => hother (heq ▸ rfl)
      rwa [List.mem_append, List.mem_singleton, or_iff_left hne]
    · rcases hmoves.abandoned hleft (by tauto) with ⟨rfl, rfl, hw⟩ | ⟨rfl, rfl, hc⟩
      · have hnot : .release i ∉ es := by simpa [hw] using hphase
        exact ⟨_, hv', hleft, Or.inl ⟨Or.inr rfl, by simp [hnot]⟩⟩
      · exact ⟨_, hv', hleft, Or.inr ⟨rfl, by simp⟩⟩
  obtain ⟨v, hv, -, ⟨hw | hc, hnot⟩ | ⟨hf, hmem⟩⟩ := hinv
  · exact ⟨v, hv, iff_of_true (by rw [hw]; rfl) hnot⟩
  · exact ⟨v, hv, iff_of_true (by rw [hc]; rfl) hnot⟩
  · exact ⟨v, hv, iff_of_false (by rw [hf]; simp [Phase.holdsWorker]) (fun h => h hmem)⟩

/-! ## Rest -/

/-- No unit can go on, and no caller leave. -/
def AtRest (script : Script) (f : Floor) : Prop :=
  ∀ e i, e.unit? = some i → f.step script e = none

/-- A unit that is past the queue can go on until it is done and its caller has left. -/
theorem Standing.exists_moves (hs : Standing script sent u) (i : Nat) (hq : u.phase ≠ .queued)
    (hopen : u.phase ≠ .finished ∨ u.ending? = none) :
    ∃ e u' texts, Moves script i u e u' texts ∧ e ≠ .take i := by
  cases hphase : u.phase with
  | queued => exact absurd hphase hq
  | ready =>
    by_cases hleft : u.ending? = some .timedOut
    · exact ⟨_, _, _, .refuse hphase hleft, by simp⟩
    · cases hw : script.waits u.request.sql with
      | false => exact ⟨_, _, _, .reply hphase hleft hw, by simp⟩
      | true => exact ⟨_, _, _, .wait hphase hleft hw, by simp⟩
  | waiting =>
    by_cases hleft : u.ending? = some .timedOut
    · exact ⟨_, _, _, .notice hphase hleft, by simp⟩
    · exact ⟨_, _, _, .answer hphase hleft, by simp⟩
  | cleaning => exact ⟨_, _, _, .release hphase, by simp⟩
  | finished =>
    have hnone := hopen.resolve_left (fun h => h hphase)
    obtain ⟨reply, hreply⟩ := Option.isSome_iff_exists.mp (hs.done.mp hphase)
    exact ⟨_, _, _, .collect hnone hreply, by simp⟩

/-- **At rest every unit is done and every caller has left.** -/
theorem AtRest.done (hrest : AtRest script f) (hb : Balanced n f) (hs : Stands script f)
    (hu : f.units[i]? = some u) : u.phase = .finished ∧ u.ending?.isSome := by
  have hdone : ∀ {j : Nat} {w : WorkUnit}, f.units[j]? = some w → w.phase ≠ .queued →
      w.phase = .finished ∧ w.ending?.isSome := by
    intro j w hw hq
    by_contra hopen
    have hopen' : w.phase ≠ .finished ∨ w.ending? = none := by
      rwa [← Option.not_isSome_iff_eq_none, ← not_and_or]
    obtain ⟨e, w', texts, hmoves, hne⟩ := (hs.unit hw).exists_moves j hq hopen'
    obtain ⟨g, hg, -⟩ := exists_step script hw hmoves fun h => absurd h hne
    rw [hrest e j hmoves.unit?] at hg
    exact absurd hg (by simp)
  refine hdone hu fun hq => ?_
  -- a unit in the queue finds no idle worker, so some unit holds one and can go on
  have hidle : f.idle = 0 := by
    by_contra hpos
    obtain ⟨g, hg, -⟩ := exists_step script hu (.take hq) fun _ =>
      Nat.pos_of_ne_zero hpos
    rw [hrest (.take i) i rfl] at hg
    exact absurd hg (by simp)
  have hheld : 0 < f.holders := by
    have := hb.workers
    have := hb.size
    omega
  obtain ⟨w, hw, hholds⟩ := List.countP_pos_iff.mp hheld
  obtain ⟨j, hj⟩ := List.mem_iff_getElem?.mp hw
  have hfinished := (hdone hj fun h => by simp [h, Phase.holdsWorker] at hholds).1
  simp [hfinished, Phase.holdsWorker] at hholds

/-! ## The bound -/

theorem balanced_of_steps (hrun : (Floor.ofSize n).steps script es = some f) : Balanced n f :=
  run_induction (P := fun _ f => Balanced n f) (balanced_ofSize n)
    (fun _ hstep hb => (happens_of_step hstep).balanced hb) hrun

/-- **The bound on workers holds with abandoned units counted.** In any order of events at most `n`
units hold a worker and the other workers are idle. A unit has returned a worker once if it has a
reply of its own and never before, and at rest every unit has. A unit whose caller left while it was
at the database holds its worker until it has let go of its statement. -/
theorem workers_bounded (hn : 1 ≤ n) {es' : List FloorEvent}
    (hrun : (Floor.ofSize n).steps script es = some f) (hthen : f.steps script es' = some g) :
    f.holders ≤ n ∧ f.idle = n - f.holders ∧
      (∀ i u, f.units[i]? = some u →
        returned script i (.ofSize n) es = if u.reply?.isSome then 1 else 0) ∧
      (AtRest script f →
        f.idle = n ∧ ∀ i < f.units.length, returned script i (.ofSize n) es = 1) ∧
      ∀ i u, f.units[i]? = some u → u.ending? = some .timedOut →
        u.phase = .waiting ∨ u.phase = .cleaning →
        ∃ v, g.units[i]? = some v ∧ (v.phase.holdsWorker = true ↔ .release i ∉ es') := by
  have hb := balanced_of_steps hrun
  have hs := stands_of_steps hrun
  have hsize : f.idle + f.holders = n := by
    have := hb.workers
    have := hb.size
    omega
  have hreturned : ∀ i u, f.units[i]? = some u →
      returned script i (.ofSize n) es = if u.phase = .finished then 1 else 0 := by
    intro i u hu
    rw [returned_eq hrun, Floor.gaveAt, hu]
    rfl
  refine ⟨by omega, by omega, ?_, ?_, ?_⟩
  · intro i u hu
    rw [hreturned i u hu]
    exact if_congr (hs.unit hu).done rfl rfl
  · intro hrest
    have hholders : f.holders = 0 := by
      refine List.countP_eq_zero.mpr fun u hmem => ?_
      obtain ⟨i, hu⟩ := List.mem_iff_getElem?.mp hmem
      rw [(hrest.done hb hs hu).1]
      exact Bool.false_ne_true
    refine ⟨by omega, fun i hi => ?_⟩
    have hu := List.getElem?_eq_getElem hi
    rw [hreturned i _ hu, if_pos (hrest.done hb hs hu).1]
  · intro i u hu hleft hphase
    exact held_of_steps hu hleft hphase hthen

/-- A statement that is still at the database when its caller leaves, and a plan behind it that is
still in the queue. -/
def abandonedRun : List FloorEvent :=
  [.arrive (.run "SELECT slow LIMIT 1000".toList), .arrive (.probe "SELECT 2 LIMIT 1000".toList),
    .take 0, .begin 0, .expire 0, .expire 1]

/-- A database that waits for slow statements. -/
def slowScript : Script := { rules := [("slow".toList, .wait 60 (.run {}))] }

/-- The slow one holds the only worker when both callers have left, and so it does while it lets go
of its statement. -/
theorem workers_bounded_abandoned :
    ∃ f g, (Floor.ofSize 1).steps slowScript abandonedRun = some f ∧
      f.steps slowScript [.notice 0] = some g ∧ f.idle = 0 ∧
      ∃ v, g.units[0]? = some v ∧ v.phase.holdsWorker = true := by
  obtain ⟨f, hrun⟩ : ∃ f, (Floor.ofSize 1).steps slowScript abandonedRun = some f := ⟨_, rfl⟩
  obtain ⟨g, hthen⟩ : ∃ g, f.steps slowScript [.notice 0] = some g := by
    obtain rfl := Option.some.inj hrun
    exact ⟨_, rfl⟩
  obtain ⟨-, hidle, -, -, hheld⟩ := workers_bounded (by decide) hrun hthen
  have hholders : f.holders = 1 := by
    obtain rfl := Option.some.inj hrun
    rfl
  obtain ⟨v, hv, hholds⟩ := hheld 0 _ (by obtain rfl := Option.some.inj hrun; rfl) rfl (Or.inl rfl)
  exact ⟨f, g, hrun, hthen, by rw [hidle, hholders], v, hv, hholds.mpr (by simp)⟩

end QueryGate
