import QueryGate.Proofs.Execution.Batch.Endings
import QueryGate.Service.Basic

/-!
# Statements that are compared

Statements that run side by side share the workers, and the time that one of them waits for a worker
counts against its deadline. That is the only thing that a statement feels of the others.

* `Outcome.untimed`: an outcome but for its time.
* `ServiceSetup.batch`: what the admitted ones of several statements ask for.
* `Starved setup workers p sqls i`: the deadline of statement `i` passes because it had to wait.

Headline: **`compared_alone`**: a statement that is compared with others has the outcome that it has
alone on idle workers, up to its time, iff it is not starved.
-/

namespace QueryGate

/-! ## Outcomes and endings -/

/-- The outcome but for its time. -/
def Outcome.untimed : Outcome → Outcome
  | .success submitted processed run _ => .success submitted processed run 0
  | .refused submitted reason => .refused submitted reason
  | .fault submitted report _ => .fault submitted report 0
  | .timeout submitted _ => .timeout submitted 0

theorem outcome_admitted (submitted processed : Sql) (request : Request)
    (ended : Request → Ending × Nat) :
    (Submission.admitted processed request).outcome submitted ended =
      .ofEnding submitted processed request (ended request).1 (ended request).2 := rfl

theorem untimed_ofEnding (submitted processed : Sql) (request : Request) (ending : Ending)
    (elapsed : Nat) : (Outcome.ofEnding submitted processed request ending elapsed).untimed =
      .ofEnding submitted processed request ending 0 := by
  rcases ending with (failure | run) | - <;> rfl

/-- The outcome of a submission, but for its time, depends on how the request ended. -/
theorem untimed_outcome (s : Submission) (sql : Sql) (ended : Request → Ending × Nat) :
    (s.outcome sql ended).untimed = s.outcome sql fun r => ((ended r).1, 0) := by
  cases s with
  | refused reason => rfl
  | admitted processed request => exact untimed_ofEnding ..

theorem submitted_untimed (outcome : Outcome) : outcome.untimed.submitted = outcome.submitted := by
  cases outcome <;> rfl

theorem submitted_outcome (s : Submission) (sql : Sql) (ended : Request → Ending × Nat) :
    (s.outcome sql ended).submitted = sql := by
  cases s with
  | refused reason => rfl
  | admitted processed request =>
    rw [outcome_admitted]
    rcases (ended request).1 with (failure | run) | - <;> rfl

/-- **Each submission gets the ending of its own request**, which stands in its place among the
requests. -/
theorem getElem?_outcomesOf (submissions : List (Sql × Submission)) (endings : List (Ending × Nat))
    (i : Nat) : (outcomesOf submissions endings)[i]? = submissions[i]?.map fun (sql, s) =>
      s.outcome sql fun _ =>
        endings[((submissions.take i).filterMap (·.2.request?)).length]?.getD (.timedOut, 0) := by
  induction submissions generalizing endings i with
  | nil => rfl
  | cons submission rest ih =>
    obtain ⟨sql, s⟩ := submission
    cases s with
    | refused reason =>
      cases i with
      | zero => rfl
      | succ i => exact ih endings i
    | admitted processed request =>
      cases endings with
      | nil =>
        cases i with
        | zero => rfl
        | succ i => exact ih [] i
      | cons ending endings =>
        cases i with
        | zero => rfl
        | succ i => exact ih endings i

/-! ## The batch of a comparison -/

namespace ServiceSetup

variable (setup : ServiceSetup) (workers : Nat) (p : Privilege) (sqls : List Sql)

/-- What the statements ask for. A statement that is refused asks for nothing. -/
def requests : List Request := sqls.filterMap fun sql => (setup.gate.submit p sql).request?

/-- The requests of the statements, handed in together. -/
def batch : Batch := ⟨setup.pace, workers, setup.requests p sqls⟩

/-- The place of statement `i` among those that are admitted. -/
def place (i : Nat) : Nat := (setup.requests p (sqls.take i)).length

end ServiceSetup

section

variable {setup : ServiceSetup} {workers : Nat} {p : Privilege} {sqls : List Sql} {i : Nat}
  {sql processed : Sql} {request : Request}

theorem getElem?_place (hsql : sqls[i]? = some sql)
    (hs : setup.gate.submit p sql = .admitted processed request) :
    (setup.requests p sqls)[setup.place p sqls i]? = some request := by
  obtain ⟨hi, rfl⟩ := List.getElem?_eq_some_iff.mp hsql
  have hrequest : (setup.gate.submit p sqls[i]).request? = some request := by rw [hs]; rfl
  have hsplit : setup.requests p sqls = setup.requests p (sqls.take i) ++
      request :: setup.requests p (sqls.drop (i + 1)) := by
    conv_lhs => rw [← List.take_append_drop i sqls, List.drop_eq_getElem_cons hi]
    unfold ServiceSetup.requests
    rw [List.filterMap_append, List.filterMap_cons, hrequest]
  rw [hsplit, ServiceSetup.place, List.getElem?_append_right (Nat.le_refl _), Nat.sub_self,
    List.getElem?_cons_zero]

/-- The deadline of statement `i` passes because it had to wait for a worker: its answer takes less
time than it has, but in its turn it comes too late. -/
def Starved (setup : ServiceSetup) (workers : Nat) (p : Privilege) (sqls : List Sql) (i : Nat) :
    Prop :=
  ∃ sql processed request, sqls[i]? = some sql ∧
    setup.gate.submit p sql = .admitted processed request ∧
    setup.pace.script.delay request.sql < setup.pace.deadline ∧
    setup.pace.deadline ≤ (setup.batch workers p sqls).stop (setup.place p sqls i)

theorem starved_iff (hsql : sqls[i]? = some sql)
    (hs : setup.gate.submit p sql = .admitted processed request) :
    Starved setup workers p sqls i ↔
      setup.pace.script.delay request.sql < setup.pace.deadline ∧
        setup.pace.deadline ≤ (setup.batch workers p sqls).stop (setup.place p sqls i) := by
  constructor
  · rintro ⟨sql', processed', request', hsql', hs', hlate⟩
    obtain rfl := Option.some.inj (hsql.symm.trans hsql')
    obtain ⟨-, rfl⟩ := Submission.admitted.inj (hs.symm.trans hs')
    exact hlate
  · exact fun hlate => ⟨sql, processed, request, hsql, hs, hlate⟩

/-- **Who is starved had all workers taken before it**: as many statements as there are workers are
admitted before it. -/
theorem Starved.workers_le (h : Starved setup workers p sqls i) :
    max 1 workers ≤ setup.place p sqls i := by
  obtain ⟨sql, processed, request, hsql, hs, hquick, hlate⟩ := h
  by_contra hfew
  have hstop := (setup.batch workers p sqls).stop_eq (getElem?_place hsql hs)
  have hstart : (setup.batch workers p sqls).start (setup.place p sqls i) = 0 :=
    startOf_of_lt (Nat.lt_of_not_le hfew)
  rw [hstop, hstart, Nat.zero_add] at hlate
  exact absurd hquick (Nat.not_lt.mpr hlate)

/-! ## Alone and side by side -/

/-- How a request ends that is alone on idle workers. -/
theorem ending_alone (pace : Pace) (workers : Nat) (request : Request) :
    Batch.ending ⟨pace, workers, [request]⟩ 0 request =
      if pace.script.delay request.sql < pace.deadline then
        .answered (pace.script.reply request.sql)
      else .timedOut := by
  have hstop := Batch.stop_eq (b := ⟨pace, workers, [request]⟩) (i := 0) rfl
  have hstart : Batch.start ⟨pace, workers, [request]⟩ 0 = 0 :=
    startOf_of_lt (Nat.lt_of_lt_of_le Nat.zero_lt_one (Nat.le_max_left ..))
  rw [Batch.ending, hstop, hstart, Nat.zero_add]

/-- Who is starved is answered alone, but not in its turn. -/
theorem Starved.ending (h : Starved setup workers p sqls i) (hsql : sqls[i]? = some sql)
    (hs : setup.gate.submit p sql = .admitted processed request) :
    (setup.batch workers p sqls).ending (setup.place p sqls i) request = .timedOut ∧
      Batch.ending ⟨setup.pace, workers, [request]⟩ 0 request =
        .answered (setup.pace.script.reply request.sql) := by
  obtain ⟨hquick, hlate⟩ := (starved_iff hsql hs).mp h
  rw [ending_alone, if_pos hquick]
  exact ⟨if_neg (Nat.not_lt.mpr hlate), rfl⟩

/-- Who is not starved ends in its turn as it does alone. -/
theorem ending_of_not_starved (h : ¬ Starved setup workers p sqls i) (hsql : sqls[i]? = some sql)
    (hs : setup.gate.submit p sql = .admitted processed request) :
    (setup.batch workers p sqls).ending (setup.place p sqls i) request =
      Batch.ending ⟨setup.pace, workers, [request]⟩ 0 request := by
  rw [starved_iff hsql hs] at h
  have hstop := (setup.batch workers p sqls).stop_eq (getElem?_place hsql hs)
  have hturn : (setup.batch workers p sqls).stop (setup.place p sqls i) < setup.pace.deadline ↔
      setup.pace.script.delay request.sql < setup.pace.deadline := by
    have hlate : setup.pace.script.delay request.sql ≤
        (setup.batch workers p sqls).stop (setup.place p sqls i) := by
      rw [hstop]
      exact Nat.le_add_left ..
    omega
  rw [ending_alone, Batch.ending]
  exact if_congr hturn rfl rfl

/-- The outcome of a statement that is executed alone on idle workers. -/
theorem execute_untimed {σ : Type} (setup : ServiceSetup) (workers : Nat) (recorded : σ)
    (c : Caller) (sql : Sql) :
    ((Service.start workers recorded).execute setup c sql).1.untimed =
      (setup.gate.submit c.privilege sql).outcome sql fun r =>
        (Batch.ending ⟨setup.pace, workers, [r]⟩ 0 r, 0) := by
  unfold Service.execute Gate.executeIn
  cases setup.gate.submit c.privilege sql with
  | refused reason => rfl
  | admitted processed request =>
    have hending := perform_endings setup.pace workers [request]
    obtain ⟨⟨ending, elapsed⟩, hone⟩ : ∃ one,
        (({ floor := .ofSize workers } : Timeline).perform setup.pace [request]).2 = [one] :=
      List.length_eq_one_iff.mp (by simpa using congrArg List.length hending)
    rw [hone] at hending
    obtain rfl : ending = Batch.ending ⟨setup.pace, workers, [request]⟩ 0 request :=
      (List.cons.inj hending).1
    have hask : ((Timeline.ask setup.pace request).run { floor := .ofSize workers }).1 =
        (Batch.ending ⟨setup.pace, workers, [request]⟩ 0 request, elapsed) := by
      show (({ floor := .ofSize workers } : Timeline).perform setup.pace [request]).2.head?.getD
        (.timedOut, 0) = _
      rw [hone]
      rfl
    show (Outcome.ofEnding sql processed request
      ((Timeline.ask setup.pace request).run { floor := .ofSize workers }).1.1 _).untimed = _
    rw [hask, untimed_ofEnding]
    rfl

/-- The outcome of a statement that runs side by side with others. -/
theorem perform_untimed {σ : Type} (setup : ServiceSetup) (workers : Nat) (recorded : σ)
    (p : Privilege) (sqls : List Sql) :
    ((Service.start workers recorded).perform setup p sqls).1.map Outcome.untimed =
      sqls.mapIdx fun i sql => (setup.gate.submit p sql).outcome sql fun r =>
        ((setup.batch workers p sqls).ending (setup.place p sqls i) r, 0) := by
  have hendings := perform_endings setup.pace workers (setup.requests p sqls)
  have hrequests : ∀ l : List Sql, (l.map fun sql => (sql, setup.gate.submit p sql)).filterMap
      (·.2.request?) = setup.requests p l := fun l => List.filterMap_map ..
  refine List.ext_getElem? fun i => ?_
  rw [List.getElem?_map, List.getElem?_mapIdx]
  show (outcomesOf (sqls.map fun sql => (sql, setup.gate.submit p sql))
    (({ floor := .ofSize workers } : Timeline).perform setup.pace _).2)[i]?.map _ = _
  rw [hrequests, getElem?_outcomesOf, ← List.map_take, hrequests, List.getElem?_map,
    ← ServiceSetup.place]
  cases hsql : sqls[i]? with
  | none => rfl
  | some sql =>
    show some (Outcome.untimed (Submission.outcome ..)) = some (Submission.outcome ..)
    rw [untimed_outcome]
    cases hs : setup.gate.submit p sql with
    | refused reason => rfl
    | admitted processed request =>
      have hending := congrArg (·[setup.place p sqls i]?) hendings
      simp only [List.getElem?_map, List.getElem?_mapIdx, getElem?_place hsql hs,
        Option.map_some] at hending
      obtain ⟨⟨ending, elapsed⟩, hone, rfl⟩ := Option.map_eq_some_iff.mp hending
      rw [hone]
      rfl

/-- **A statement that is compared with others has the outcome that it has alone** on idle workers,
up to its time, iff it is not starved. The deadline passes for one that is starved, and as many
statements as there are workers are admitted before it. -/
theorem compared_alone {σ : Type} (setup : ServiceSetup) (workers : Nat) (recorded : σ)
    (c : Caller) (sqls : List Sql) :
    let outcomes := ((Service.start workers recorded).perform setup c.privilege sqls).1
    outcomes.length = sqls.length ∧
      ∀ i sql, sqls[i]? = some sql →
        ∃ outcome, outcomes[i]? = some outcome ∧ outcome.submitted = sql ∧
          (outcome.untimed = ((Service.start workers recorded).execute setup c sql).1.untimed ↔
            ¬ Starved setup workers c.privilege sqls i) ∧
          (Starved setup workers c.privilege sqls i → outcome.untimed = .timeout sql 0 ∧
            max 1 workers ≤ setup.place c.privilege sqls i) := by
  intro outcomes
  have huntimed : outcomes.map Outcome.untimed = _ :=
    perform_untimed setup workers recorded c.privilege sqls
  refine ⟨?_, fun i sql hsql => ?_⟩
  · rw [← List.length_map Outcome.untimed, huntimed, List.length_mapIdx]
  have hi := congrArg (·[i]?) huntimed
  simp only [List.getElem?_map, List.getElem?_mapIdx, hsql, Option.map_some] at hi
  obtain ⟨outcome, houtcome, hi⟩ := Option.map_eq_some_iff.mp hi
  refine ⟨outcome, houtcome, ?_, ?_⟩
  · rw [← submitted_untimed, hi, submitted_outcome]
  rw [hi, execute_untimed]
  cases hs : setup.gate.submit c.privilege sql with
  | refused reason =>
    have hnot : ¬ Starved setup workers c.privilege sqls i := by
      rintro ⟨sql', processed, request, hsql', hs', -⟩
      obtain rfl := Option.some.inj (hsql.symm.trans hsql')
      exact absurd (hs.symm.trans hs') (by simp)
    exact ⟨iff_of_true rfl hnot, fun h => absurd h hnot⟩
  | admitted processed request =>
    rw [outcome_admitted, outcome_admitted]
    by_cases hstarved : Starved setup workers c.privilege sqls i
    · obtain ⟨hgone, halone⟩ := hstarved.ending hsql hs
      rw [hgone, halone]
      refine ⟨iff_of_false ?_ (not_not_intro hstarved), fun _ => ⟨rfl, hstarved.workers_le⟩⟩
      rcases setup.pace.script.reply request.sql with failure | run
      · simp [Outcome.ofEnding]
      · simp [Outcome.ofEnding]
    · rw [ending_of_not_starved hstarved hsql hs]
      exact ⟨iff_of_true rfl hstarved, fun h => absurd h hstarved⟩

end

/-- A service with a database that takes its time for slow statements, but not all that they
have. -/
def slowSetup : ServiceSetup := { pace := { script := slowScript, deadline := 100 } }

/-- Two slow statements on two workers: the second one has the outcome that it has alone. -/
theorem compared_alone_two_workers :
    ∃ outcome, ((Service.start 2 ()).perform slowSetup .standard
        ["SELECT slow1".toList, "SELECT slow2".toList]).1[1]? = some outcome ∧
      outcome.untimed = ((Service.start 2 ()).execute slowSetup ⟨1, .standard⟩
        "SELECT slow2".toList).1.untimed := by
  obtain ⟨-, hall⟩ := compared_alone slowSetup 2 () ⟨1, .standard⟩
    ["SELECT slow1".toList, "SELECT slow2".toList]
  obtain ⟨outcome, houtcome, -, hsame, -⟩ := hall 1 "SELECT slow2".toList rfl
  have hplace : slowSetup.place .standard ["SELECT slow1".toList, "SELECT slow2".toList] 1 ≤ 1 :=
    List.length_filterMap_le ..
  refine ⟨outcome, houtcome, hsame.mpr fun h => ?_⟩
  exact absurd (Nat.le_trans h.workers_le hplace) (by decide)

/-- Two slow statements on one worker: the deadline passes for the second one, which is answered
when it is alone. -/
theorem second_slow_starves :
    ((Service.start 1 ()).perform slowSetup .standard
        ["SELECT slow1".toList, "SELECT slow2".toList]).1[1]? =
      some (.timeout "SELECT slow2".toList 100) ∧
    ((Service.start 1 ()).execute slowSetup ⟨1, .standard⟩ "SELECT slow2".toList).1 =
      .success "SELECT slow2".toList "SELECT slow2 LIMIT 1000".toList {} 60 := by
  decide +kernel

end QueryGate
