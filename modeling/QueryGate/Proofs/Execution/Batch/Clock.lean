import QueryGate.Proofs.Execution.Batch

/-!
# The clock of a batch

Until the deadline the clock of a batch stops at the answers only. Each of them makes a worker idle,
and the floor settles again.

* `OnClock b due t`: how the clock stands before the deadline, while the timers `due` are still to
  be fired.
* `Floor.unfinished`: how many units are still to be done.

Headline: **`OnClock.fire`**: the clock moves on to the next timer before the deadline, and one unit
more is done.
-/

namespace QueryGate

/-! ## Units that are done -/

/-- The units that are still to be done. -/
def Floor.unfinished (f : Floor) : Nat := f.units.countP (·.phase != .finished)

section Unfinished

variable {script : Script} {pace : Pace} {f g : Floor} {e : FloorEvent} {t : Timeline} {i : Nat}
  {u u' : WorkUnit} {texts : List Sql}

/-- What is done stays done. -/
theorem Moves.finished_stays (h : Moves script i u e u' texts) (hdone : u.phase = .finished) :
    u'.phase = .finished := by
  cases h with
  | take hp | wait hp | notice hp => exact absurd (hp.symm.trans hdone) (by simp)
  | refuse | reply | answer | release => rfl
  | collect | expire => exact hdone

theorem MovesOn.unfinished_le (h : MovesOn script f e g i u u' texts) :
    g.unfinished ≤ f.unfinished := by
  have hcount := h.countP (·.phase != .finished)
  have hstays := h.moves.finished_stays
  unfold Floor.unfinished
  by_cases hdone : u.phase = .finished
  · simp only [hdone, hstays hdone, bne_self_eq_false] at hcount
    omega
  · simp only [bne_iff_ne.mpr hdone, if_true] at hcount
    split at hcount <;> omega

theorem unfinished_happen_le (hi : e.unit? = some i) :
    (t.happen pace e).floor.unfinished ≤ t.floor.unfinished := by
  cases hstep : t.floor.step pace.script e with
  | none =>
    rw [happen_of_refused hstep]
  | some g =>
    obtain ⟨u, u', texts, hon⟩ := movesOn_of_step hstep hi
    rw [happen_of_step hstep]
    exact hon.unfinished_le

theorem unfinished_settle_le (pace : Pace) (t : Timeline) :
    (t.settle pace).floor.unfinished ≤ t.floor.unfinished :=
  settleIn_induction (P := fun t' => t'.floor.unfinished ≤ t.floor.unfinished)
    (fun he hle => by
      obtain ⟨g, i, u, u', texts, hstep, hon, -⟩ := step_of_immediate pace.script he
      exact Nat.le_trans (unfinished_happen_le hon.moves.unit?) hle) _ (Nat.le_refl _)

/-- A unit that is answered is done. -/
theorem unfinished_answer_lt (pace : Pace) (hu : t.floor.units[i]? = some u)
    (hw : u.phase = .waiting) (hhere : u.ending? ≠ some .timedOut) :
    (t.happen pace (.answer i)).floor.unfinished < t.floor.unfinished := by
  obtain ⟨g, hstep, hon⟩ := exists_step pace.script hu (.answer hw hhere) (by simp)
  have hcount := hon.countP (·.phase != .finished)
  rw [if_pos (by simp [hw]), if_neg (by simp [WorkUnit.finished])] at hcount
  rw [happen_of_step hstep]
  show g.units.countP _ < t.floor.units.countP _
  omega

end Unfinished

/-- The next timer is one that is set, and none is due before it. -/
theorem nextDue?_eq_some {t : Timeline} {time : Nat} (h : t.nextDue? = some time) :
    (∃ timer ∈ t.timers, timer.due = time) ∧ ∀ timer ∈ t.timers, time ≤ timer.due := by
  obtain ⟨hmem, hleast⟩ := List.min?_eq_some_iff.mp h
  exact ⟨List.mem_map.mp hmem, fun timer ht => hleast _ (List.mem_map_of_mem ht)⟩

/-! ## The clock before the deadline -/

/-- How the clock stands before the deadline, while the timers `due` are still to be fired. Besides
the deadlines it has a timer for each unit at the database. -/
structure OnClock (b : Batch) (due : List Timer) (t : Timeline) : Prop where
  shift : InShift b t.now t.floor
  early : t.now < b.pace.deadline
  timers : ∃ answers, t.timers = b.deadlines ++ answers ∧ ∀ timer ∈ answers, ∃ i u,
    timer = ⟨b.stop i, .answer i⟩ ∧ t.floor.units[i]? = some u ∧ u.phase = .waiting
  answers : ∀ {i : Nat} {u : WorkUnit}, t.floor.units[i]? = some u → u.phase = .waiting →
    ⟨b.stop i, .answer i⟩ ∈ due ++ t.timers
  due : ∀ timer ∈ due, ∃ i, timer = ⟨b.stop i, .answer i⟩ ∧ b.stop i ≤ t.now

section Clock

variable {b : Batch} {due : List Timer} {t : Timeline} {g : Floor} {e : FloorEvent} {i : Nat}
  {u u' : WorkUnit} {texts : List Sql}

/-- An event of a unit that was not at the database sets a timer if it is there now. -/
theorem OnClock.move (h : OnClock b due t)
    (hon : MovesOn b.pace.script t.floor e g i u u' texts)
    (hstep : t.floor.step b.pace.script e = some g) (hshift : InShift b t.now g)
    (hwas : u.phase ≠ .waiting)
    (htimer : (t.timerOf? b.pace g e).toList =
      if u'.phase = .waiting then [⟨b.stop i, .answer i⟩] else []) :
    OnClock b due (t.happen b.pace e) := by
  obtain ⟨answers, htimers, hanswers⟩ := h.timers
  rw [happen_of_step hstep, htimer]
  refine ⟨hshift, h.early, ?_, ?_, h.due⟩
  · refine ⟨answers ++ if u'.phase = .waiting then [⟨b.stop i, .answer i⟩] else [], ?_, ?_⟩
    · show t.timers ++ _ = _
      rw [htimers, List.append_assoc]
    · intro timer hmem
      rcases List.mem_append.mp hmem with hmem | hmem
      · obtain ⟨j, v, rfl, hv, hw⟩ := hanswers timer hmem
        have hj : j ≠ i := by
          rintro rfl
          obtain rfl := Option.some.inj (hon.unit.symm.trans hv)
          exact hwas hw
        exact ⟨j, v, rfl, (hon.other hj).trans hv, hw⟩
      · split at hmem
        · rename_i hw
          exact ⟨i, u', List.mem_singleton.mp hmem, hon.self, hw⟩
        · exact absurd hmem List.not_mem_nil
  · intro j v hv hw
    rw [← List.append_assoc]
    by_cases hj : j = i
    · subst hj
      obtain rfl := Option.some.inj (hon.self.symm.trans hv)
      rw [if_pos hw]
      exact List.mem_append_right _ (List.mem_singleton_self _)
    · exact List.mem_append_left _ (h.answers ((hon.other hj).symm.trans hv) hw)

/-- **What happens at once keeps the clock.** -/
theorem OnClock.immediate (h : OnClock b due t) (he : Immediate t.floor e) :
    OnClock b due (t.happen b.pace e) := by
  obtain ⟨g, i, u, u', texts, hstep, hon, -⟩ := step_of_immediate b.pace.script he
  have hu := h.shift.unit hon.unit
  have hfirst : e = .take i → ∀ j < i, ∀ v, t.floor.units[j]? = some v → v.phase ≠ .queued := by
    rintro rfl
    cases he with
    | take _ _ _ hfirst => exact hfirst
  have hshift := h.shift.move hon hfirst (by rintro rfl; cases he) (by rintro rfl; cases he)
  refine h.move hon hstep hshift ?_ ?_
  · cases hon.moves with
    | take hp => simp [hp]
    | refuse hp | reply hp | wait hp => simp [hp]
    | answer => cases he
    | notice _ hleft => exact absurd hleft hu.here
    | release hp => simp [hp]
    | collect _ hreply =>
      rw [((h.shift.stands.unit hon.unit).done).mpr (by rw [hreply]; rfl)]
      simp
    | expire => cases he
  · cases hon.moves with
    | take => simp [Timeline.timerOf?]
    | refuse _ hleft => exact absurd hleft hu.here
    | reply => simp [Timeline.timerOf?, hon.self, WorkUnit.finished]
    | wait hready =>
      have hstop := b.stop_eq hu.request
      simp [Timeline.timerOf?, hon.self, hu.ready hready, hstop]
    | answer => cases he
    | notice _ hleft => exact absurd hleft hu.here
    | release => cases he
    | collect _ hreply =>
      have hdone := ((h.shift.stands.unit hon.unit).done).mpr (by rw [hreply]; rfl)
      simp [Timeline.timerOf?, hdone]
    | expire => cases he

theorem OnClock.settle (h : OnClock b [] t) : OnClock b [] (t.settle b.pace) :=
  settleIn_induction (P := OnClock b []) (fun he h => h.immediate he) _ h

/-! ## From one answer to the next -/

/-- A unit whose answer is due has been answered if it cannot be. -/
theorem OnClock.skip (h : OnClock b (⟨b.stop i, .answer i⟩ :: due) t)
    (hstep : t.floor.step b.pace.script (.answer i) = none) : OnClock b due t := by
  refine ⟨h.shift, h.early, h.timers, fun {j v} hv hw => ?_,
    fun timer hmem => h.due timer (List.mem_cons_of_mem _ hmem)⟩
  rcases List.mem_cons.mp (h.answers hv hw) with heq | hmem
  · obtain rfl : j = i := by simpa using congrArg Timer.event heq
    obtain ⟨g, hg, -⟩ := exists_step b.pace.script hv (.answer hw (h.shift.unit hv).here) (by simp)
    exact absurd (hg.symm.trans hstep) (by simp)
  · exact hmem

/-- A unit whose answer is due is answered. -/
theorem OnClock.give (h : OnClock b (⟨b.stop i, .answer i⟩ :: due) t)
    (hlater : ∀ timer ∈ t.timers, t.now < timer.due)
    (hon : MovesOn b.pace.script t.floor (.answer i) g i u u' texts) :
    OnClock b due { t with floor := g } := by
  have hdue : b.stop i ≤ t.now := by
    obtain ⟨j, heq, hle⟩ := h.due _ List.mem_cons_self
    obtain rfl : i = j := by simpa using congrArg Timer.event heq
    exact hle
  have hfinished : u'.phase = .finished := by
    cases hon.moves with
    | answer => rfl
  obtain ⟨answers, htimers, hanswers⟩ := h.timers
  refine ⟨h.shift.move hon (by simp) (fun _ => hdue) (by simp), h.early,
    ⟨answers, htimers, fun timer hmem => ?_⟩, fun {j v} hv hw => ?_,
    fun timer hmem => h.due timer (List.mem_cons_of_mem _ hmem)⟩
  · obtain ⟨j, v, rfl, hv, hw⟩ := hanswers timer hmem
    -- a timer that is still set is none of unit `i`, whose answer is due
    have hj : j ≠ i := by
      rintro rfl
      exact absurd hdue (Nat.not_le.mpr (hlater _ (htimers ▸ List.mem_append_right _ hmem)))
    exact ⟨j, v, rfl, (hon.other hj).trans hv, hw⟩
  · have hj : j ≠ i := by
      rintro rfl
      obtain rfl := Option.some.inj (hon.self.symm.trans hv)
      exact absurd (hfinished.symm.trans hw) (by simp)
    have hmem := List.mem_cons.mp (h.answers ((hon.other hj).symm.trans hv) hw)
    exact hmem.resolve_left fun heq => hj (by simpa using congrArg Timer.event heq)

/-- **An answer that is due is given** and keeps the clock. -/
theorem OnClock.answer (h : OnClock b (⟨b.stop i, .answer i⟩ :: due) t)
    (hlater : ∀ timer ∈ t.timers, t.now < timer.due) :
    OnClock b due (t.happen b.pace (.answer i)) ∧
      (t.happen b.pace (.answer i)).timers = t.timers ∧
      (t.happen b.pace (.answer i)).now = t.now := by
  cases hstep : t.floor.step b.pace.script (.answer i) with
  | none =>
    rw [happen_of_refused hstep]
    exact ⟨h.skip hstep, rfl, rfl⟩
  | some g =>
    obtain ⟨u, u', texts, hon⟩ := movesOn_of_step hstep rfl
    have hsame : t.happen b.pace (.answer i) = { t with floor := g } := by
      rw [happen_of_step hstep]
      simp [Timeline.timerOf?, Timeline.leaver?]
    rw [hsame]
    exact ⟨h.give hlater hon, rfl, rfl⟩

/-- The answers that are due are given one after another. -/
theorem OnClock.answerAll : ∀ {due : List Timer} {t : Timeline}, OnClock b due t →
    (∀ timer ∈ t.timers, t.now < timer.due) →
    OnClock b [] (due.foldl (fun t timer => t.happen b.pace timer.event) t) ∧
      (due.foldl (fun t timer => t.happen b.pace timer.event) t).floor.unfinished ≤
        t.floor.unfinished := by
  intro due
  induction due with
  | nil => exact fun h _ => ⟨h, Nat.le_refl _⟩
  | cons timer due ih =>
    intro t h hlater
    obtain ⟨i, rfl, -⟩ := h.due _ List.mem_cons_self
    obtain ⟨hnext, htimers, hnow⟩ := h.answer hlater
    obtain ⟨hlast, hless⟩ := ih hnext (by rwa [htimers, hnow])
    exact ⟨hlast, Nat.le_trans hless (unfinished_happen_le rfl)⟩

/-- No timer was missed. -/
theorem OnClock.now_le (h : OnClock b [] t) {timer : Timer} (hmem : timer ∈ t.timers) :
    t.now ≤ timer.due := by
  obtain ⟨answers, htimers, hanswers⟩ := h.timers
  rw [htimers, List.mem_append] at hmem
  rcases hmem with hmem | hmem
  · obtain ⟨i, -, rfl⟩ := List.mem_map.mp hmem
    exact Nat.le_of_lt h.early
  · obtain ⟨i, u, rfl, hu, hw⟩ := hanswers timer hmem
    exact (h.shift.unit hu).waiting hw

/-- **The clock moves on** over a settled floor, up to the next timer, if that is no deadline. -/
theorem OnClock.advance (h : OnClock b [] t) (hsettled : ∀ e, ¬ Immediate t.floor e) {time : Nat}
    (hnow : t.now ≤ time) (hnext : ∀ timer ∈ t.timers, time ≤ timer.due)
    (hearly : time < b.pace.deadline) :
    OnClock b (t.timers.filter (·.due ≤ time))
      { t with now := time, timers := t.timers.filter (¬ ·.due ≤ time) } := by
  obtain ⟨answers, htimers, hanswers⟩ := h.timers
  have hlate : ∀ timer ∈ b.deadlines, ¬ timer.due ≤ time := by
    intro timer hmem
    obtain ⟨i, -, rfl⟩ := List.mem_map.mp hmem
    exact Nat.not_le.mpr hearly
  refine ⟨?_, hearly, ⟨answers.filter (¬ ·.due ≤ time), ?_, ?_⟩, ?_, ?_⟩
  · exact h.shift.later hsettled hnow fun j v hv hw => hnext _ (h.answers hv hw)
  · show t.timers.filter (¬ ·.due ≤ time) = _
    rw [htimers, List.filter_append]
    congr 1
    exact List.filter_eq_self.mpr fun timer hmem => decide_eq_true (hlate timer hmem)
  · exact fun timer hmem => hanswers timer (List.mem_filter.mp hmem).1
  · intro i u hu hw
    have hmem : ⟨b.stop i, .answer i⟩ ∈ t.timers := h.answers hu hw
    by_cases hle : b.stop i ≤ time
    · exact List.mem_append_left _ (List.mem_filter.mpr ⟨hmem, decide_eq_true hle⟩)
    · exact List.mem_append_right _ (List.mem_filter.mpr ⟨hmem, decide_eq_true hle⟩)
  · intro timer hmem
    obtain ⟨hmem, hle⟩ := List.mem_filter.mp hmem
    rw [decide_eq_true_eq] at hle
    rw [htimers, List.mem_append, or_iff_right fun hd => hlate timer hd hle] at hmem
    obtain ⟨i, u, rfl, -, -⟩ := hanswers timer hmem
    exact ⟨i, rfl, hle⟩

/-- **The clock moves on to the next timer before the deadline**, and one unit more is done. -/
theorem OnClock.fire (h : OnClock b [] t) (hsettled : ∀ e, ¬ Immediate t.floor e) {time : Nat}
    (hnext : t.nextDue? = some time) (hearly : time < b.pace.deadline) :
    OnClock b [] (t.fire b.pace time) ∧
      (t.fire b.pace time).floor.unfinished < t.floor.unfinished := by
  obtain ⟨⟨next, hmem, rfl⟩, hleast⟩ := nextDue?_eq_some hnext
  have hon := h.advance hsettled (h.now_le hmem) hleast hearly
  have hlater : ∀ timer ∈ t.timers.filter (¬ ·.due ≤ next.due), next.due < timer.due := by
    intro timer hrest
    have := (List.mem_filter.mp hrest).2
    rw [decide_eq_true_eq] at this
    omega
  refine ⟨(hon.answerAll hlater).1, ?_⟩
  -- the first answer that is due is given to a unit that waits for it
  obtain ⟨first, due, hdue⟩ : ∃ first due, t.timers.filter (·.due ≤ next.due) = first :: due :=
    List.exists_cons_of_ne_nil
      (List.ne_nil_of_mem (List.mem_filter.mpr ⟨hmem, decide_eq_true (Nat.le_refl _)⟩))
  obtain ⟨hfirst, hle⟩ := List.mem_filter.mp (hdue ▸ List.mem_cons_self)
  rw [decide_eq_true_eq] at hle
  obtain ⟨answers, htimers, hanswers⟩ := h.timers
  have hanswer : first ∈ answers := by
    rw [htimers, List.mem_append] at hfirst
    refine hfirst.resolve_left fun hd => ?_
    obtain ⟨i, -, rfl⟩ := List.mem_map.mp hd
    exact absurd hearly (Nat.not_lt.mpr hle)
  obtain ⟨i, u, rfl, hu, hw⟩ := hanswers first hanswer
  rw [hdue] at hon
  obtain ⟨hrest, htimers', hnow'⟩ := hon.answer hlater
  have hless := (hrest.answerAll (by rwa [htimers', hnow'])).2
  have hone := unfinished_answer_lt b.pace
    (t := { t with now := next.due, timers := t.timers.filter (¬ ·.due ≤ next.due) }) hu hw
    (h.shift.unit hu).here
  unfold Timeline.fire
  rw [hdue]
  exact Nat.lt_of_le_of_lt hless hone

end Clock

end QueryGate
