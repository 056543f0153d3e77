import QueryGate.Proofs.Sample.Batches

/-!
# Runs of a generation

The steps of a generation do not depend on the database: it only says how far they are carried out.
So a run that fails has made the first calls of the run that does not, up to the one that failed,
and the claim on the monitor is given back with it. On the way the progress only rises.

* `seen steps status`, `shown steps status`: the calls of steps that all succeed, and the status
  behind them.
* `FailsAt db calls k e`: the first call that the database fails is number `k`.
* `Climbs low steps high`: the progress rises from `low` to `high`.
* `generation_sent`: what a run sends that nothing stops.

Headline: `generate_runs`.
-/

namespace QueryGate.Sample

open QueryGate.Random

/-! ## Calls -/

/-- The calls of steps that all succeed, each with the status at its moment. -/
def seen : List Step → Status → List Call
  | [], _ => []
  | .report progress task :: steps, status => seen steps (status.report progress task)
  | .send statement :: steps, status => ⟨statement, status⟩ :: seen steps status

/-- The status behind steps that all succeed. -/
def shown : List Step → Status → Status
  | [], status => status
  | .report progress task :: steps, status => shown steps (status.report progress task)
  | .send _ :: steps, status => shown steps status

/-- The statement of a step, if it sends one. -/
def Step.sent? : Step → Option Statement
  | .report _ _ => none
  | .send statement => some statement

theorem seen_statements (steps : List Step) (status : Status) :
    (seen steps status).map (·.statement) = steps.filterMap Step.sent? := by
  induction steps generalizing status with
  | nil => rfl
  | cons step steps ih => cases step <;> simp [seen, Step.sent?, ih, List.filterMap_cons]

/-- What is sent before the first rows. -/
theorem preparation_sent (b : Backend) :
    (preparation b).filterMap Step.sent? = schema b ++ Table.all.reverse.map .clear := by
  have hsends (statements : List Statement) :
      (statements.map Step.send).filterMap Step.sent? = statements := by
    rw [List.filterMap_map]
    exact List.filterMap_some
  have hclears (tables : List Table) :
      (tables.map (Step.send ∘ Statement.clear)).filterMap Step.sent? = tables.map .clear := by
    rw [← List.map_map, hsends]
  simp only [preparation, List.filterMap_append, List.filterMap_cons, List.filterMap_nil,
    Step.sent?, hsends, hclears, List.append_nil]

theorem shown_append (steps more : List Step) (status : Status) :
    shown (steps ++ more) status = shown more (shown steps status) := by
  induction steps generalizing status with
  | nil => rfl
  | cons step steps ih => cases step <;> simp [shown, ih]

/-- Reports and statements leave the claim as it is. -/
theorem generating_shown (steps : List Step) (status : Status) :
    (shown steps status).generating = status.generating := by
  induction steps generalizing status with
  | nil => rfl
  | cons step steps ih => cases step <;> simp [shown, ih, Status.report]

/-- The database takes all calls; they are numbered from `number` on. -/
def Accepts (db : Database) : (number : Nat) → List Call → Prop
  | _, [] => True
  | number, call :: calls => db number call.statement = none ∧ Accepts db (number + 1) calls

/-- The first of the calls that the database fails is number `k`, and it fails with `e`. -/
def FailsAt (db : Database) (calls : List Call) (k : Nat) (e : Failure) : Prop :=
  ∃ before call after, calls = before ++ call :: after ∧ Accepts db 1 before ∧
    k = before.length + 1 ∧ db k call.statement = some e

theorem accepts_all (number : Nat) (calls : List Call) :
    Accepts (fun _ _ => none) number calls := by
  induction calls generalizing number with
  | nil => trivial
  | cons call calls ih => exact ⟨rfl, ih _⟩

/-- Calls that are not all taken have a first one that fails. -/
theorem accepts_or_fails (db : Database) (number : Nat) (calls : List Call) :
    Accepts db number calls ∨ ∃ before call after e, calls = before ++ call :: after ∧
      Accepts db number before ∧ db (number + before.length) call.statement = some e := by
  induction calls generalizing number with
  | nil => exact .inl trivial
  | cons call calls ih =>
    cases hanswer : db number call.statement with
    | some e => exact .inr ⟨[], call, calls, e, rfl, trivial, hanswer⟩
    | none =>
      rcases ih (number + 1) with hall | ⟨before, failed, after, e, hcalls, hbefore, hfails⟩
      · exact .inl ⟨hanswer, hall⟩
      · refine .inr ⟨call :: before, failed, after, e, by rw [hcalls, List.cons_append],
          ⟨hanswer, hbefore⟩, ?_⟩
        rwa [List.length_cons, Nat.add_comm before.length, ← Nat.add_assoc]

/-- What is taken up to a call does not fail before it. -/
theorem not_accepts_of_fails {db : Database} {number : Nat} {before after : List Call} {call : Call}
    {e : Failure} (hfails : db (number + before.length) call.statement = some e) :
    ¬ Accepts db number (before ++ call :: after) := by
  induction before generalizing number with
  | nil => exact fun h => absurd (h.1.symm.trans hfails) (by simp)
  | cons first before ih =>
    intro h
    refine ih ?_ h.2
    rwa [List.length_cons, Nat.add_comm before.length, ← Nat.add_assoc] at hfails

theorem accepts_or_failsAt (db : Database) (calls : List Call) :
    Accepts db 1 calls ∨ ∃ k e, FailsAt db calls k e := by
  rcases accepts_or_fails db 1 calls with hall | ⟨before, call, after, e, hcalls, hbefore, hfails⟩
  · exact .inl hall
  · rw [Nat.add_comm] at hfails
    exact .inr ⟨_, e, before, call, after, hcalls, hbefore, rfl, hfails⟩

theorem not_failsAt_of_accepts {db : Database} {calls : List Call} (h : Accepts db 1 calls)
    (k : Nat) (e : Failure) : ¬ FailsAt db calls k e := by
  rintro ⟨before, call, after, rfl, -, rfl, hfails⟩
  rw [Nat.add_comm] at hfails
  exact not_accepts_of_fails hfails h

/-! ## Carrying out steps -/

section Play

variable {db : Database} {steps : List Step} {number : Nat} {status : Status}

/-- Steps whose calls are all taken are carried out to their end. -/
theorem play_accepted (h : Accepts db number (seen steps status)) (calls : List Call) :
    play db steps number calls status =
      ⟨(seen steps status).reverse ++ calls, shown steps status, none⟩ := by
  induction steps generalizing number calls status with
  | nil => rfl
  | cons step steps ih =>
    cases step with
    | report progress task => exact ih h calls
    | send statement =>
      obtain ⟨hanswer, hrest⟩ := h
      simp [play, seen, shown, hanswer, ih hrest]

/-- Steps are carried out up to the first call that fails; nothing happens behind it. -/
theorem play_fails {before after : List Call} {call : Call} {e : Failure}
    (hseen : seen steps status = before ++ call :: after) (hbefore : Accepts db number before)
    (hfails : db (number + before.length) call.statement = some e) (calls : List Call) :
    play db steps number calls status =
      ⟨call :: before.reverse ++ calls, call.status, some e⟩ := by
  induction steps generalizing number before calls status with
  | nil => exact absurd hseen (by simp [seen])
  | cons step steps ih =>
    cases step with
    | report progress task => exact ih hseen hbefore hfails calls
    | send statement =>
      cases before with
      | nil =>
        obtain ⟨rfl, -⟩ := List.cons.inj hseen
        have hanswer : db number statement = some e := hfails
        simp [play, hanswer]
      | cons first before =>
        obtain ⟨rfl, hrest⟩ := List.cons.inj hseen
        obtain ⟨hanswer, hbefore⟩ := hbefore
        rw [List.length_cons, Nat.add_comm before.length, ← Nat.add_assoc] at hfails
        have hanswer : db number statement = none := hanswer
        simp [play, hanswer, ih hrest hbefore hfails]

end Play

/-! ## Rising progress -/

/-- The progress never falls: it begins at `low` and ends at `high`. -/
inductive Climbs : Nat → List Step → Nat → Prop
  | nothing (progress : Nat) : Climbs progress [] progress
  | report {low progress high : Nat} {steps : List Step} (task : String) (rises : low ≤ progress)
      (rest : Climbs progress steps high) : Climbs low (.report progress task :: steps) high
  | send {low high : Nat} {steps : List Step} (statement : Statement)
      (rest : Climbs low steps high) : Climbs low (.send statement :: steps) high

namespace Climbs

variable {low middle high : Nat} {steps more : List Step}

theorem append (h : Climbs low steps middle) (hmore : Climbs middle more high) :
    Climbs low (steps ++ more) high := by
  induction h with
  | nothing => exact hmore
  | report task rises _ ih => exact .report task rises (ih hmore)
  | send statement _ ih => exact .send statement (ih hmore)

theorem le (h : Climbs low steps high) : low ≤ high := by
  induction h with
  | nothing => exact Nat.le_refl _
  | report _ rises _ ih => exact Nat.le_trans rises ih
  | send _ _ ih => exact ih

theorem sends (progress : Nat) (statements : List Statement) :
    Climbs progress (statements.map .send) progress := by
  induction statements with
  | nil => exact .nothing progress
  | cons statement statements ih => exact .send statement ih

theorem of_fills {t : Table} {most : Nat} {rows : List Row} (h : Fills t most low steps rows high) :
    Climbs low steps high := by
  induction h with
  | nothing => exact .nothing _
  | batch task _ _ rises _ ih => exact .send _ (.report task rises ih)

/-- Every call is seen while the generation runs, at a progress that only rises. -/
theorem seen (h : Climbs low steps high) (hhigh : high ≤ 100) {status : Status}
    (hstatus : status.progress = low) (hrunning : status.generating = true) :
    (∀ call ∈ Sample.seen steps status, call.status.generating = true ∧
      low ≤ call.status.progress ∧ call.status.progress ≤ 100) ∧
    (Sample.seen steps status).Pairwise (fun a b => a.status.progress ≤ b.status.progress) := by
  induction h generalizing status with
  | nothing => simp [Sample.seen]
  | @report _ progress _ _ task rises rest ih =>
    have hcut : (status.report progress task).progress = progress :=
      Nat.min_eq_left (Nat.le_trans rest.le hhigh)
    obtain ⟨hcalls, hpairs⟩ := ih hhigh hcut hrunning
    exact ⟨fun call hcall => ⟨(hcalls call hcall).1, Nat.le_trans rises (hcalls call hcall).2.1,
      (hcalls call hcall).2.2⟩, hpairs⟩
  | send statement rest ih =>
    obtain ⟨hcalls, hpairs⟩ := ih hhigh hstatus hrunning
    have hfirst := Nat.le_trans rest.le hhigh
    subst hstatus
    refine ⟨?_, List.pairwise_cons.mpr ⟨fun call hcall => (hcalls call hcall).2.1, hpairs⟩⟩
    rintro call (_ | ⟨_, hcall⟩)
    · exact ⟨hrunning, Nat.le_refl _, hfirst⟩
    · exact hcalls call hcall

end Climbs

theorem preparation_climbs (b : Backend) : Climbs 0 (preparation b) 5 := by
  have hclears : Climbs 2 (Table.all.reverse.map (.send ∘ .clear)) 2 := by
    rw [← List.map_map]
    exact .sends 2 _
  have hschema := Climbs.sends 0 (schema b)
  exact ((Climbs.report _ (Nat.le_refl 0) hschema).append
    (.report _ (by decide) hclears)).append (.report _ (by decide) (.nothing 5))

theorem Stages.climbs {r : Request} {data : Data} {filling : List Step}
    (h : Stages r data filling) : ∃ high ≤ 100, Climbs 5 filling high := by
  obtain ⟨⟨_, hcustomers, hfirst⟩, ⟨_, hproducts, hsecond⟩, ⟨_, horders, hthird⟩,
    ⟨high, hitems, hfourth⟩⟩ := h
  exact ⟨high, hitems, (((Climbs.of_fills hfirst).append
    (.report _ hcustomers (.of_fills hsecond))).append
    (.report _ hproducts (.of_fills hthird))).append (.report _ horders (.of_fills hfourth))⟩

section Generation

variable {σ : Type} [Source σ] {r : Request}

/-- **The progress of a generation only rises**, from nothing to all. -/
theorem generation_climbs (hvalid : r.Valid) (b : Backend) (s : σ) :
    Climbs 0 (generation b r s).1 100 := by
  obtain ⟨filling, hstages, hplan⟩ := generation_stages hvalid b s
  obtain ⟨high, hhigh, hclimbs⟩ := hstages.climbs
  rw [hplan]
  exact ((preparation_climbs b).append hclimbs).append (.report _ hhigh (.nothing 100))

/-- Behind the last step everything is there. -/
theorem shown_generation (hvalid : r.Valid) (b : Backend) (s : σ) (status : Status) :
    shown (generation b r s).1 status = ⟨status.generating, 100, "Completed!"⟩ := by
  obtain ⟨filling, -, hplan⟩ := generation_stages hvalid b s
  rw [hplan, shown_append]
  simp [shown, Status.report, generating_shown]

/-- What a generation sends: the schema, the clearing of every table, and then its data, stage by
stage. -/
theorem generation_sent (hvalid : r.Valid) (b : Backend) (s : σ) :
    ∃ filling, Stages r (drawData r s) filling ∧
      (generation b r s).1.filterMap Step.sent? =
        schema b ++ Table.all.reverse.map .clear ++ filling.filterMap Step.sent? := by
  obtain ⟨filling, hstages, hplan⟩ := generation_stages hvalid b s
  refine ⟨filling, hstages, ?_⟩
  rw [hplan, List.filterMap_append, List.filterMap_append, preparation_sent]
  exact List.append_nil _

/-! ## Requests -/

/-- The calls of a run that nothing stops. -/
@[irreducible]
def wholeCalls (b : Backend) (r : Request) (source : σ) : List Call :=
  seen (generation b r source).1 .starting

theorem wholeCalls_statements (b : Backend) (r : Request) (source : σ) :
    (wholeCalls b r source).map (·.statement) =
      (generation b r source).1.filterMap Step.sent? := by
  rw [wholeCalls]
  exact seen_statements _ _

/-- The report of a run that nothing stops. -/
def wholeReport (b : Backend) (r : Request) (source : σ) : Report :=
  ⟨r.customers, r.products, r.orders, (generation b r source).2, 0⟩

/-- A valid request that finds the monitor free, and a database that takes everything. -/
theorem generate_accepted (hvalid : r.Valid) {status : Status} (hfree : status.generating = false)
    {b : Backend} {db : Database} {source : σ} (h : Accepts db 1 (wholeCalls b r source)) :
    generate b db source status r =
      ⟨wholeCalls b r source, .ok (wholeReport b r source), ⟨false, 100, "Completed!"⟩⟩ := by
  have hcheck := (Request.check_eq_ok_iff r).mpr hvalid
  rw [wholeCalls] at h ⊢
  simp [generate, hcheck, hfree, play_accepted h, shown_generation hvalid, Status.stop, wholeReport]

/-- A valid request that finds the monitor free, and a database that fails a call. -/
theorem generate_fails (hvalid : r.Valid) {status : Status} (hfree : status.generating = false)
    {b : Backend} {db : Database} {source : σ} {before after : List Call} {call : Call}
    {e : Failure} (hcalls : wholeCalls b r source = before ++ call :: after)
    (hbefore : Accepts db 1 before) (hfails : db (before.length + 1) call.statement = some e) :
    generate b db source status r = ⟨before ++ [call], .error e, call.status.stop⟩ := by
  have hcheck := (Request.check_eq_ok_iff r).mpr hvalid
  rw [Nat.add_comm] at hfails
  rw [wholeCalls] at hcalls
  simp [generate, hcheck, hfree, play_fails hcalls hbefore hfails]

/-- The same, with the number of the call. -/
theorem generate_of_failsAt (hvalid : r.Valid) {status : Status} (hfree : status.generating = false)
    {b : Backend} {db : Database} {source : σ} {k : Nat} {e : Failure}
    (h : FailsAt db (wholeCalls b r source) k e) :
    k ≤ (wholeCalls b r source).length ∧
      (generate b db source status r).calls = (wholeCalls b r source).take k ∧
      (generate b db source status r).result = .error e ∧
      (generate b db source status r).status.generating = false := by
  obtain ⟨before, call, after, hcalls, hbefore, rfl, hfails⟩ := h
  rw [generate_fails hvalid hfree hcalls hbefore hfails, hcalls]
  refine ⟨by simp, ?_, rfl, rfl⟩
  simp [List.take_length_add_append]

/-- Any other request is refused, with no call and no change. -/
theorem generate_refused {status : Status} (h : ¬ r.Valid ∨ status.generating = true) (b : Backend)
    (db : Database) (source : σ) :
    ∃ e, generate b db source status r = ⟨[], .error e, status⟩ := by
  rw [generate]
  split
  · exact ⟨_, rfl⟩
  next hcheck =>
    have hvalid := (Request.check_eq_ok_iff r).mp hcheck
    rw [if_pos (h.resolve_left (not_not_intro hvalid))]
    exact ⟨_, rfl⟩

/-- A run that reports was asked for with a valid request, and made all calls. -/
theorem generate_ok {b : Backend} {db : Database} {source : σ} {status : Status} {report : Report}
    (h : (generate b db source status r).result = .ok report) :
    r.Valid ∧ report = wholeReport b r source ∧
      (generate b db source status r).calls = wholeCalls b r source := by
  by_cases hrefused : ¬ r.Valid ∨ status.generating = true
  · obtain ⟨e, hrun⟩ := generate_refused hrefused b db source
    exact absurd (hrun ▸ h) (by simp)
  obtain ⟨hvalid, hclaimed⟩ := not_or.mp hrefused
  have hvalid := not_not.mp hvalid
  have hfree := eq_false_of_ne_true hclaimed
  rcases accepts_or_failsAt db (wholeCalls b r source) with hall | ⟨k, e, hfails⟩
  · rw [generate_accepted hvalid hfree hall] at h ⊢
    exact ⟨hvalid, (Except.ok.inj h).symm, rfl⟩
  · obtain ⟨-, -, hresult, -⟩ := generate_of_failsAt hvalid hfree hfails
    exact absurd (hresult.symm.trans h) (by simp)

/-- Once the claim is given back, a monitor answers as a fresh one does. -/
theorem generate_free {status : Status} (hfree : status.generating = false) (b : Backend)
    (db : Database) (source : σ) (r : Request) :
    (generate b db source status r).calls = (generate b db source {} r).calls ∧
      (generate b db source status r).result = (generate b db source {} r).result := by
  unfold generate
  split
  · exact ⟨rfl, rfl⟩
  · rw [hfree]
    exact ⟨rfl, rfl⟩

/-- Every call of a run is made while the generation is shown to run, at a progress that never falls
and stays in its bounds. -/
def Outcome.Rises (o : Outcome) : Prop :=
  (∀ call ∈ o.calls, call.status.generating = true ∧ call.status.progress ≤ 100) ∧
    o.calls.Pairwise fun a b => a.status.progress ≤ b.status.progress

/-- What rises to the end rises up to any call before it. -/
theorem Outcome.Rises.up_to {o whole : Outcome} (h : whole.Rises)
    (hstart : o.calls <+: whole.calls) : o.Rises :=
  ⟨fun call hcall => h.1 call (hstart.subset hcall), h.2.sublist hstart.sublist⟩

theorem wholeCalls_rise (hvalid : r.Valid) (b : Backend) (source : σ)
    (result : Except Failure Report) (status : Status) :
    (Outcome.mk (wholeCalls b r source) result status).Rises := by
  have hstart : Status.starting.progress = 0 := rfl
  rw [wholeCalls]
  obtain ⟨hcalls, hpairs⟩ := (generation_climbs hvalid b source).seen (Nat.le_refl _) hstart rfl
  exact ⟨fun call hcall => ⟨(hcalls call hcall).1, (hcalls call hcall).2.2⟩, hpairs⟩

/-- **Failure and progress of a generation.** A request that is not valid, or that finds the monitor
claimed, makes no call and changes nothing. Any other request runs. The run that no call fails sends
the statements of its generation in their order: the schema, the clearing of every table, and the
data stage by stage. It ends with everything there. A run fails with the failure of the first call
that the database fails, and has then made the calls up to that one. In every run the progress that
the calls see only rises; behind it the monitor answers the next request as a fresh one does. -/
theorem generate_runs (b : Backend) (db : Database) (source : σ) (status : Status) (r : Request) :
    let run := generate b db source status r
    let whole := generate b (fun _ _ => none) source status r
    (¬ r.Valid ∨ status.generating = true →
      run.calls = [] ∧ run.status = status ∧ ∃ e, run.result = .error e) ∧
    (r.Valid → status.generating = false →
      (∃ report, whole.result = .ok report) ∧
      whole.calls.map (·.statement) = (generation b r source).1.filterMap Step.sent? ∧
      (∃ filling, Stages r (drawData r source) filling ∧ whole.calls.map (·.statement) =
        schema b ++ Table.all.reverse.map .clear ++ filling.filterMap Step.sent?) ∧
      (∀ e, run.result = .error e ↔ ∃ k, FailsAt db whole.calls k e) ∧
      (∀ k e, FailsAt db whole.calls k e →
        k ≤ whole.calls.length ∧ run.calls = whole.calls.take k) ∧
      (∀ report, run.result = .ok report →
        run.calls = whole.calls ∧ run.status = ⟨false, 100, "Completed!"⟩) ∧
      run.Rises ∧ run.status.generating = false ∧
      ∀ (db' : Database) (source' : σ) (r' : Request),
        (generate b db' source' run.status r').calls = (generate b db' source' {} r').calls ∧
        (generate b db' source' run.status r').result = (generate b db' source' {} r').result) := by
  intro run whole
  refine ⟨fun hrefused => ?_, fun hvalid hfree => ?_⟩
  · obtain ⟨e, hrun⟩ := generate_refused hrefused b db source
    exact ⟨congrArg Outcome.calls hrun, congrArg Outcome.status hrun, e,
      congrArg Outcome.result hrun⟩
  have hwhole : whole = ⟨wholeCalls b r source, .ok (wholeReport b r source), _⟩ :=
    generate_accepted hvalid hfree (accepts_all 1 _)
  have hrises : whole.Rises := hwhole ▸ wholeCalls_rise hvalid b source _ _
  have hsent := wholeCalls_statements b r source
  obtain ⟨filling, hstages, hstatements⟩ := generation_sent hvalid b source
  have hfails (k : Nat) (e : Failure) (h : FailsAt db (wholeCalls b r source) k e) :=
    generate_of_failsAt hvalid hfree h
  clear_value whole
  subst hwhole
  refine ⟨⟨_, rfl⟩, hsent, ⟨filling, hstages, hsent.trans hstatements⟩, ?_⟩
  rcases accepts_or_failsAt db (wholeCalls b r source) with hall | ⟨k, e, hfailed⟩
  · -- all calls are taken
    have hnone := not_failsAt_of_accepts hall
    have hrun : run = ⟨wholeCalls b r source, .ok (wholeReport b r source), _⟩ :=
      generate_accepted hvalid hfree hall
    clear_value run
    subst hrun
    refine ⟨fun e => ⟨fun h => absurd h (by simp), fun ⟨k, h⟩ => absurd h (hnone k e)⟩,
      fun k e h => absurd h (hnone k e), fun _ _ => ⟨rfl, rfl⟩, hrises, rfl, generate_free rfl b⟩
  · -- a call fails
    obtain ⟨-, hcalls, hresult, hfreed⟩ := hfails k e hfailed
    have hstart : run.calls <+: wholeCalls b r source := hcalls ▸ List.take_prefix _ _
    refine ⟨fun e' => ⟨fun h => ?_, fun ⟨k, h⟩ => (hfails k e' h).2.2.1⟩,
      fun k e h => ⟨(hfails k e h).1, (hfails k e h).2.1⟩,
      fun report h => absurd (hresult.symm.trans h) (by simp), hrises.up_to hstart, hfreed,
      generate_free hfreed b⟩
    obtain rfl : e = e' := Except.error.inj (hresult.symm.trans h)
    exact ⟨_, hfailed⟩

end Generation

end QueryGate.Sample
