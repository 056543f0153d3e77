import QueryGate.Proofs.Execution.Batch.Clock

/-!
# The endings of a batch

Of requests that are handed in together those are answered whose answers come before the deadline
when the workers are taken in turn. At the deadline all other callers leave, and nothing that
happens later brings them back.

* `Batch.arrived b`: idle workers that the batch has just come to.
* `Ended b f`: every caller has left the floor as `Batch.ending` says.

Headline: **`perform_endings`**: whoever waits for all callers of a batch sees them leave as
`Batch.ending` says.
-/

namespace QueryGate

/-! ## Deadlines -/

section Deadline

variable {pace : Pace} {t : Timeline} {i : Nat} {u : WorkUnit}

/-- A deadline that passes ends the wait of its caller and of no other one. -/
theorem expire_ending (pace : Pace) (hu : t.floor.units[i]? = some u) (hhere : u.ending? = none)
    (j : Nat) :
    ∃ v, (t.happen pace (.expire j)).floor.units[i]? = some v ∧
      v.ending? = if j = i then some .timedOut else none := by
  by_cases hj : j = i
  · subst hj
    obtain ⟨g, hstep, hon⟩ := exists_step pace.script hu (.expire hhere) (by simp)
    rw [happen_of_step hstep, if_pos rfl]
    exact ⟨_, hon.self, rfl⟩
  · rw [if_neg hj]
    cases hstep : t.floor.step pace.script (.expire j) with
    | none =>
      rw [happen_of_refused hstep]
      exact ⟨u, hu, hhere⟩
    | some g =>
      obtain ⟨v, v', texts, hon⟩ := movesOn_of_step hstep rfl
      rw [happen_of_step hstep]
      exact ⟨u, (hon.other (Ne.symm hj)).trans hu, hhere⟩

/-- When the deadlines of some units pass their callers have left. -/
theorem expireAll_ending (pace : Pace) (time : Nat) (hu : t.floor.units[i]? = some u)
    (hhere : u.ending? = none) {places : List Nat} (hi : i ∈ places) :
    ∃ v, ((places.map fun j => Timer.mk time (.expire j)).foldl
        (fun t timer => t.happen pace timer.event) t).floor.units[i]? = some v ∧
      v.ending? = some .timedOut := by
  induction places generalizing t u with
  | nil => exact absurd hi List.not_mem_nil
  | cons j places ih =>
    rw [List.map_cons, List.foldl_cons]
    obtain ⟨v, hv, hleft⟩ := expire_ending pace hu hhere j
    by_cases hj : j = i
    · rw [if_pos hj] at hleft
      exact stays_fold pace _ _ i v .timedOut hv hleft
    · rw [if_neg hj] at hleft
      exact ih hv hleft ((List.mem_cons.mp hi).resolve_left (Ne.symm hj))

end Deadline

/-! ## How all callers leave -/

/-- Every caller of the batch has left, as `Batch.ending` says. -/
def Ended (b : Batch) (f : Floor) : Prop :=
  ∀ (i : Nat) (r : Request), b.requests[i]? = some r →
    ∃ u, f.units[i]? = some u ∧ u.ending? = some (b.ending i r)

theorem Ended.stays {b : Batch} {f g : Floor} (h : Ended b f) (hstays : Stays f g) : Ended b g := by
  intro i r hr
  obtain ⟨u, hu, hleft⟩ := h i r hr
  exact hstays i u _ hu hleft

section Endings

variable {b : Batch} {t : Timeline} {i : Nat} {u : WorkUnit} {r : Request}

/-- Each request has its unit. -/
theorem OnClock.exists_unit (h : OnClock b [] t) (hr : b.requests[i]? = some r) :
    ∃ u, t.floor.units[i]? = some u ∧ u.request = r := by
  obtain ⟨hi, -⟩ := List.getElem?_eq_some_iff.mp hr
  obtain ⟨u, hu⟩ : ∃ u, t.floor.units[i]? = some u :=
    ⟨_, List.getElem?_eq_getElem (by rwa [h.shift.length])⟩
  exact ⟨u, hu, Option.some.inj ((h.shift.unit hu).request.symm.trans hr)⟩

/-- **A caller that leaves before the deadline has its own answer.** -/
theorem OnClock.answered (h : OnClock b [] t) (hu : t.floor.units[i]? = some u) {ending : Ending}
    (hleft : u.ending? = some ending) : ending = b.ending i u.request := by
  have hon := h.shift.unit hu
  have hstanding := h.shift.stands.unit hu
  cases ending with
  | timedOut => exact absurd hleft hon.here
  | answered reply =>
    have hreply := hstanding.answered reply hleft
    have hstop := hon.finished (hstanding.done.mpr (by rw [hreply]; rfl))
    have hearly := h.early
    rw [Batch.ending, if_pos (by omega), (hstanding.replied reply hreply hon.here).1]

/-- **A caller that stays up to the deadline has no answer before it.** -/
theorem OnClock.stays (h : OnClock b [] t) (hsettled : ∀ e, ¬ Immediate t.floor e)
    (hnext : ∀ timer ∈ t.timers, b.pace.deadline ≤ timer.due) (hu : t.floor.units[i]? = some u)
    (hhere : u.ending? = none) : b.ending i u.request = .timedOut := by
  have hon := h.shift.unit hu
  have hwaiting : ∀ (j : Nat) (v : WorkUnit), t.floor.units[j]? = some v → v.phase = .waiting →
      b.pace.deadline ≤ b.stop j := fun j v hv hw => hnext _ (h.answers hv hw)
  have hstop : b.pace.deadline ≤ b.stop i := by
    cases hphase : u.phase with
    | queued =>
      have := h.shift.le_start hu hphase hsettled hwaiting
      have := b.stop_eq hon.request
      omega
    | ready => exact absurd (.begin hu hphase) (hsettled _)
    | waiting => exact hwaiting i u hu hphase
    | cleaning => exact absurd hphase (h.shift.not_cleaning hu)
    | finished =>
      exact absurd (.collect hu hhere ((h.shift.stands.unit hu).done.mp hphase)) (hsettled _)
  rw [Batch.ending, if_neg (Nat.not_lt.mpr hstop)]

/-- **When the deadlines pass**, whoever is still there leaves. They were set first, so they pass
before answers of the same time come. -/
theorem fire_deadlines {answers : List Timer} (htimers : t.timers = b.deadlines ++ answers)
    (hr : b.requests[i]? = some r) (hu : t.floor.units[i]? = some u) (hhere : u.ending? = none) :
    ∃ v, (t.fire b.pace b.pace.deadline).floor.units[i]? = some v ∧ v.ending? = some .timedOut := by
  have hall : b.deadlines.filter (·.due ≤ b.pace.deadline) = b.deadlines := by
    refine List.filter_eq_self.mpr fun timer hmem => ?_
    obtain ⟨j, -, rfl⟩ := List.mem_map.mp hmem
    exact decide_eq_true (Nat.le_refl _)
  have hi : i ∈ List.range b.requests.length :=
    List.mem_range.mpr (List.getElem?_eq_some_iff.mp hr).1
  obtain ⟨v, hv, hleft⟩ := expireAll_ending b.pace b.pace.deadline
    (t := { t with now := b.pace.deadline, timers := t.timers.filter (¬ ·.due ≤ b.pace.deadline) })
    hu hhere hi
  unfold Timeline.fire
  rw [htimers, List.filter_append, hall, List.foldl_append, ← htimers]
  exact stays_fold b.pace _ _ i v .timedOut hv hleft

theorem OnClock.ended_of_allLeft (h : OnClock b [] t) (hleft : t.allLeft = true) :
    Ended b t.floor := by
  intro i r hr
  obtain ⟨u, hu, rfl⟩ := h.exists_unit hr
  obtain ⟨ending, hending⟩ :=
    Option.isSome_iff_exists.mp (List.all_eq_true.mp hleft u (List.mem_of_getElem? hu))
  exact ⟨u, hu, h.answered hu hending ▸ hending⟩

/-- **At the deadline every caller has left.** -/
theorem OnClock.ended_at_deadline (h : OnClock b [] t) (hsettled : ∀ e, ¬ Immediate t.floor e)
    (hnext : ∀ timer ∈ t.timers, b.pace.deadline ≤ timer.due) :
    Ended b (t.fire b.pace b.pace.deadline).floor := by
  intro i r hr
  obtain ⟨u, hu, rfl⟩ := h.exists_unit hr
  cases hending : u.ending? with
  | some ending =>
    exact stays_fire b.pace t _ i u _ hu (h.answered hu hending ▸ hending)
  | none =>
    obtain ⟨answers, htimers, -⟩ := h.timers
    rw [h.stays hsettled hnext hu hending]
    exact fire_deadlines htimers hr hu hending

/-- **The clock runs until all callers have left** as they should. Each time it moves on before the
deadline one unit more is done, so the fuel is enough. -/
theorem OnClock.ended : ∀ {fuel : Nat} {t : Timeline}, OnClock b [] t →
    t.floor.unfinished < fuel →
    Ended b (t.runIn b.pace (fun t _ => t.allLeft) fuel).floor := by
  intro fuel
  induction fuel with
  | zero => exact fun _ hfuel => absurd hfuel (Nat.not_lt_zero _)
  | succ fuel ih =>
    intro t h hfuel
    have hsettle := h.settle
    have hsettled := settle_settled b.pace t
    have hless := unfinished_settle_le b.pace t
    rw [Timeline.runIn]
    generalize t.settle b.pace = s at hsettle hsettled hless ⊢
    have hset : ∀ {i : Nat} {r : Request}, b.requests[i]? = some r →
        ⟨b.pace.deadline, .expire i⟩ ∈ s.timers := by
      intro i r hr
      obtain ⟨answers, htimers, -⟩ := hsettle.timers
      rw [htimers]
      refine List.mem_append_left _ (List.mem_map.mpr ⟨i, List.mem_range.mpr ?_, rfl⟩)
      exact (List.getElem?_eq_some_iff.mp hr).1
    split
    · -- without a timer there is no caller
      rename_i hnone
      intro i r hr
      have hempty : s.timers = [] := by
        rw [Timeline.nextDue?, List.min?_eq_none_iff] at hnone
        exact List.map_eq_nil_iff.mp hnone
      exact absurd (hset hr) (hempty ▸ List.not_mem_nil)
    · rename_i due hnext
      split
      · rename_i hleft
        exact hsettle.ended_of_allLeft hleft
      · rcases Nat.lt_or_ge due b.pace.deadline with hearly | hlate
        · obtain ⟨hfire, hone⟩ := hsettle.fire hsettled hnext hearly
          exact ih hfire (by omega)
        · intro i r hr
          have hleast := (nextDue?_eq_some hnext).2
          obtain rfl : due = b.pace.deadline := Nat.le_antisymm (hleast _ (hset hr)) hlate
          exact (hsettle.ended_at_deadline hsettled hleast).stays (stays_runIn _ _ _ _) i r hr

/-! ## From the start -/

theorem endingOf_eq (hu : t.floor.units[i]? = some u) {ending : Ending}
    (hleft : u.ending? = some ending) : (t.endingOf i).1 = ending := by
  rw [Timeline.endingOf, hu, Option.bind_some, hleft]
  rfl

/-- Requests that arrive get units with deadlines. -/
theorem arrivals_fold (pace : Pace) (requests : List Request) (t : Timeline) :
    requests.foldl (fun t r => t.happen pace (.arrive r)) t =
      { t with
        floor := { t.floor with units := t.floor.units ++ requests.map ({ request := · }) }
        timers := t.timers ++ (List.range' t.floor.units.length requests.length).map
          fun i => ⟨t.now + pace.deadline, .expire i⟩ } := by
  induction requests generalizing t with
  | nil => simp
  | cons r requests ih =>
    rw [List.foldl_cons, ih]
    simp [Timeline.happen, Floor.step, Timeline.timerOf?, Timeline.leaver?, List.range'_succ]

namespace Batch

/-- Idle workers that the batch has just come to. -/
def arrived (b : Batch) : Timeline where
  floor := { Floor.ofSize b.workers with units := b.requests.map ({ request := · }) }
  timers := b.deadlines

theorem receive_eq (b : Batch) : ({ floor := .ofSize b.workers } : Timeline).receive b.pace
    b.requests = b.arrived.fire b.pace 0 := by
  rw [Timeline.receive, arrivals_fold]
  simp [arrived, deadlines, Floor.ofSize, List.range_eq_range']

theorem arrived_unit {b : Batch} (hu : b.arrived.floor.units[i]? = some u) :
    ∃ r, b.requests[i]? = some r ∧ u = { request := r } := by
  obtain ⟨r, hr, rfl⟩ := Option.map_eq_some_iff.mp (List.getElem?_map ▸ hu)
  exact ⟨r, hr, rfl⟩

theorem onClock_arrived {b : Batch} (h : 0 < b.pace.deadline) : OnClock b [] b.arrived where
  shift := {
    stands := fun i => by
      unfold StandsAt
      cases hu : b.arrived.floor.units[i]? with
      | none => rfl
      | some u =>
        obtain ⟨r, -, rfl⟩ := arrived_unit hu
        exact standing_of_arrival _ r
    balanced := by
      refine ⟨rfl, ?_⟩
      have hfree : b.arrived.floor.holders = 0 := by
        refine List.countP_eq_zero.mpr fun u hu => ?_
        obtain ⟨r, -, rfl⟩ := List.mem_map.mp hu
        exact Bool.false_ne_true
      rw [hfree]
      rfl
    length := List.length_map ..
    unit := fun hu => by
      obtain ⟨r, hr, rfl⟩ := arrived_unit hu
      exact ⟨hr, by simp, fun _ => Nat.zero_le _, by simp, by simp, by simp⟩
    fifo := fun _ _ _ hv => by
      obtain ⟨r, -, rfl⟩ := arrived_unit hv
      rfl }
  early := h
  timers := ⟨[], (List.append_nil _).symm, fun _ hmem => absurd hmem List.not_mem_nil⟩
  answers := fun hu hw => by
    obtain ⟨r, -, rfl⟩ := arrived_unit hu
    exact absurd hw (by simp)
  due := fun _ hmem => absurd hmem List.not_mem_nil

/-- **Every caller of the batch leaves** as it should, also where the deadline is no time at all. -/
theorem ended (b : Batch) : Ended b ((b.arrived.fire b.pace 0).await b.pace).floor := by
  unfold Timeline.await Timeline.run
  rcases Nat.eq_zero_or_pos b.pace.deadline with hnone | hsome
  · refine Ended.stays (fun i r hr => ?_) (stays_runIn _ _ _ _)
    have hu : b.arrived.floor.units[i]? = some { request := r } := by simp [arrived, hr]
    obtain ⟨v, hv, hleft⟩ := fire_deadlines (List.append_nil b.deadlines).symm hr hu rfl
    rw [hnone] at hv
    rw [ending, hnone, if_neg (Nat.not_lt_zero _)]
    exact ⟨v, hv, hleft⟩
  · have hlate : ∀ timer ∈ b.arrived.timers, ¬ timer.due ≤ 0 := by
      intro timer hmem
      obtain ⟨i, -, rfl⟩ := List.mem_map.mp hmem
      exact Nat.not_le.mpr hsome
    have hsame : b.arrived.fire b.pace 0 = b.arrived := by
      unfold Timeline.fire
      rw [List.filter_eq_nil_iff.mpr fun timer hmem => by simpa using hlate timer hmem,
        List.filter_eq_self.mpr fun timer hmem => decide_eq_true (hlate timer hmem)]
      rfl
    rw [hsame]
    refine (onClock_arrived hsome).ended (Nat.lt_of_le_of_lt List.countP_le_length ?_)
    omega

end Batch

/-- **Who waits for requests that are handed in together to idle workers** sees all of them end, in
order. A request is answered, as the script says, iff its answer comes before the deadline when the
workers are taken in turn. -/
theorem perform_endings (pace : Pace) (workers : Nat) (requests : List Request) :
    (({ floor := .ofSize workers } : Timeline).perform pace requests).2.map (·.1) =
      requests.mapIdx (Batch.ending ⟨pace, workers, requests⟩) := by
  let b : Batch := ⟨pace, workers, requests⟩
  have hended := b.ended
  rw [← b.receive_eq] at hended
  refine List.ext_getElem? fun i => ?_
  rw [List.getElem?_mapIdx, Timeline.perform, List.map_map, List.getElem?_map]
  cases hr : requests[i]? with
  | none =>
    have hi := List.getElem?_eq_none_iff.mp hr
    rw [List.getElem?_eq_none (by rwa [List.length_range'])]
    rfl
  | some r =>
    obtain ⟨hi, -⟩ := List.getElem?_eq_some_iff.mp hr
    obtain ⟨u, hu, hleft⟩ := hended i r hr
    rw [List.getElem?_range' hi]
    show some (Timeline.endingOf _ (0 + 1 * i)).1 = some (b.ending i r)
    rw [Nat.zero_add, Nat.one_mul, endingOf_eq hu hleft]

end Endings

end QueryGate
