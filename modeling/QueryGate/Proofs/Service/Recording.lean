import Mathlib.Data.List.Forall2
import Mathlib.Data.List.Perm.Basic
import QueryGate.Proofs.Service.Comparison

/-!
# What is recorded

Attempts are recorded behind the callers' backs: an attempt is noted when its call returns, and a
recorder hands it to the sink some time later, between other calls or when the service ends. The
recorders run in any order, the sink may fail as it likes, and between the calls anything may happen
on the floor.

* `ServiceEvent`, `Service.session`: calls, recorders and the floor, one event after another.
* `ServiceCall.attempts`: the statements that a call made, each with its outcome.
* `Tells made a`: the attempt `a` says what came of the statement `made`.
* `Sink.noting`: the sink, which also notes what it is handed.

Headline: **`recorded_once`**: when nothing is pending any more, the sink was handed one attempt for
each statement that was executed or compared and nothing else, and what the sink did with it changed
no reply.
-/

namespace QueryGate

/-! ## Sessions -/

/-- What a caller asks of the service. -/
inductive ServiceCall where
  | execute (c : Caller) (sql : Sql)
  | explain (c : Caller) (sql : Sql)
  | compare (c : Caller) (sqls : List Sql)

/-- What a caller gets. -/
inductive ServiceReply where
  | outcome (o : Outcome)
  | plan (a : PlanAnswer)
  | outcomes (result : Except Failure (List Outcome))

/-- What happens at a service. -/
inductive ServiceEvent where
  | call (c : ServiceCall)
  /-- A recorder hands the pending attempt at this place to the sink. -/
  | write (place : Nat)
  /-- Whatever else goes on moves the clock and the floor. -/
  | drift (timeline : Timeline)

/-- The event concerns the sink. -/
def ServiceEvent.isWrite : ServiceEvent → Bool
  | .write _ => true
  | _ => false

/-- What happened, apart from the writes. -/
def withoutWrites (events : List ServiceEvent) : List ServiceEvent := events.filter (! ·.isWrite)

namespace Service

variable {σ : Type} (setup : ServiceSetup) (sink : Sink σ)

/-- Carries out a call. -/
def call (s : Service σ) : ServiceCall → ServiceReply × Service σ
  | .execute c sql => (.outcome (s.execute setup c sql).1, (s.execute setup c sql).2)
  | .explain c sql => (.plan (s.explain setup c sql).1, (s.explain setup c sql).2)
  | .compare c sqls => (.outcomes (s.compare setup c sqls).1, (s.compare setup c sqls).2)

/-- What happens one after another: the calls with their replies, and the service in the end. -/
def session (s : Service σ) : List ServiceEvent → List (ServiceCall × ServiceReply) × Service σ
  | [] => ([], s)
  | .call c :: events =>
    let after := (s.call setup c).2.session events
    ((c, (s.call setup c).1) :: after.1, after.2)
  | .write place :: events =>
    { s with recorder := s.recorder.writeAt sink place }.session events
  | .drift timeline :: events => { s with timeline }.session events

end Service

/-- The recorders run in this order. -/
def Recorder.writes {σ : Type} (sink : Sink σ) (r : Recorder σ) (places : List Nat) : Recorder σ :=
  places.foldl (Recorder.writeAt sink) r

/-- The sink, which notes each attempt before it deals with it. -/
def Sink.noting {σ : Type} (sink : Sink σ) : Sink (List Attempt × σ) where
  write a s := ((sink.write a s.2).1, (s.1 ++ [a], (sink.write a s.2).2))

/-- The statements that a call made, each with its outcome. A request for a plan makes none, nor
does a comparison that is turned down. -/
def ServiceCall.attempts : ServiceCall → ServiceReply → List (Caller × Sql × Outcome)
  | .execute c sql, .outcome o => [(c, sql, o)]
  | .compare c sqls, .outcomes (.ok os) => (sqls.zip os).map fun made => (c, made.1, made.2)
  | _, _ => []

/-- The rows and the plan of an outcome, if it has any. -/
def Outcome.run? : Outcome → Option StatementRun
  | .success _ _ run _ => some run
  | _ => none

/-- The attempt says what came of the statement that was made: who made it, its text as it was
submitted, and what its caller was told. A number is cut off at `2 ^ 63 - 1`. -/
structure Tells (made : Caller × Sql × Outcome) (a : Attempt) : Prop where
  user : a.userId = made.1.userId
  sql : a.sql = made.2.1
  status : a.status = made.2.2.status
  message : a.message = made.2.2.message?
  elapsed : a.elapsed = made.2.2.elapsed?.map fun n => ((min n 9223372036854775807 : Nat) : Int)
  rowsReturned : a.rowsReturned =
    made.2.2.run?.map fun run => ((min run.result.rowCount 9223372036854775807 : Nat) : Int)
  rowsScanned : a.rowsScanned =
    (made.2.2.run?.bind (·.plan.rowsScanned)).map fun n => ((min n 9223372036854775807 : Nat) : Int)
  indexUsed : a.indexUsed = made.2.2.run?.bind (·.plan.indexUsed)
  plan : a.plan = made.2.2.run?.map (·.plan.text)

theorem stored_eq (n : Nat) : stored n = ((min n 9223372036854775807 : Nat) : Int) := by
  have hmax : maxStored = 9223372036854775807 := by decide
  rw [stored, hmax]
  omega

/-- **An attempt tells its outcome.** -/
theorem tells_ofOutcome (c : Caller) (o : Outcome) :
    Tells (c, o.submitted, o) (.ofOutcome c.userId o) := by
  have hstored : stored = fun n => ((min n 9223372036854775807 : Nat) : Int) := funext stored_eq
  constructor <;> cases o <;> simp [Attempt.ofOutcome, Outcome.run?, Outcome.elapsed?, hstored]

/-! ## Replies -/

section Replies

variable {σ : Type} (setup : ServiceSetup) (s : Service σ) (c : Caller)

theorem submitted_ofEnding (submitted processed : Sql) (request : Request) (ending : Ending)
    (elapsed : Nat) :
    (Outcome.ofEnding submitted processed request ending elapsed).submitted = submitted := by
  rcases ending with (failure | run) | - <;> rfl

theorem submitted_execute (sql : Sql) : (s.execute setup c sql).1.submitted = sql := by
  unfold Service.execute Gate.executeIn
  cases setup.gate.submit c.privilege sql with
  | refused reason => rfl
  | admitted processed request => exact submitted_ofEnding sql processed request _ _

/-- The outcomes of statements that run side by side are theirs, in order. -/
theorem submitted_perform (p : Privilege) (sqls : List Sql) :
    (s.perform setup p sqls).1.map Outcome.submitted = sqls := by
  refine List.ext_getElem? fun i => ?_
  unfold Service.perform
  rw [List.getElem?_map, getElem?_outcomesOf, List.getElem?_map]
  cases sqls[i]? with
  | none => rfl
  | some sql => exact congrArg some (submitted_outcome ..)

/-- A comparison is turned down, and nothing happens, iff there is nothing to compare or too
much. -/
theorem compare_refused_iff (sqls : List Sql) :
    (∃ failure, s.compare setup c sqls = (.error failure, s)) ↔
      sqls = [] ∨ setup.compareLimit < sqls.length := by
  unfold Service.compare
  split
  · rename_i hempty
    exact iff_of_true ⟨_, rfl⟩ (Or.inl (List.isEmpty_iff.mp hempty))
  · rename_i hsome
    split
    · rename_i hmany
      exact iff_of_true ⟨_, rfl⟩ (Or.inr hmany)
    · rename_i hfew
      refine iff_of_false (by simp) ?_
      rintro (rfl | hmany)
      · exact hsome rfl
      · exact hfew hmany

theorem compare_of_admitted {sqls : List Sql}
    (h : ¬ (sqls = [] ∨ setup.compareLimit < sqls.length)) :
    s.compare setup c sqls = (.ok (s.perform setup c.privilege sqls).1,
      (s.perform setup c.privilege sqls).2.noteAll setup c.userId
        (s.perform setup c.privilege sqls).1) := by
  rw [not_or] at h
  unfold Service.compare
  rw [if_neg (by simpa using h.1), if_neg h.2]

end Replies

/-! ## Attempts that are noted -/

section Noted

variable {σ : Type} {setup : ServiceSetup} (s : Service σ)

theorem noteAll_eq (records : setup.records = true) (user : Int) (outcomes : List Outcome) :
    s.noteAll setup user outcomes =
      { s with recorder :=
        { s.recorder with
          pending := s.recorder.pending ++ outcomes.map (Attempt.ofOutcome user) } } := by
  have hfold : ∀ r : Recorder σ,
      outcomes.foldl (fun r o => r.note (.ofOutcome user o)) r =
        { r with pending := r.pending ++ outcomes.map (Attempt.ofOutcome user) } := by
    induction outcomes with
    | nil => exact fun r => by rw [List.map_nil, List.append_nil]; rfl
    | cons o outcomes ih =>
      intro r
      rw [List.foldl_cons, ih, Recorder.note, List.map_cons, List.append_assoc,
        List.singleton_append]
  rw [Service.noteAll, if_pos records, hfold]

/-- The attempts that the statements which a call made are to leave. -/
def attemptsOf (made : List (Caller × Sql × Outcome)) : List Attempt :=
  made.map fun m => .ofOutcome m.1.userId m.2.2

theorem tells_attemptsOf {made : List (Caller × Sql × Outcome)}
    (h : ∀ m ∈ made, m.2.2.submitted = m.2.1) : List.Forall₂ Tells made (attemptsOf made) := by
  unfold attemptsOf
  rw [List.forall₂_map_right_iff, List.forall₂_same]
  intro m hm
  have htells := tells_ofOutcome m.1 m.2.2
  rwa [h m hm] at htells

/-- The statements of a comparison that is not turned down. -/
theorem attempts_compare (c : Caller) {sqls : List Sql}
    (h : ¬ (sqls = [] ∨ setup.compareLimit < sqls.length)) :
    (ServiceCall.compare c sqls).attempts (s.call setup (.compare c sqls)).1 =
      (s.perform setup c.privilege sqls).1.map fun o => (c, o.submitted, o) := by
  have hown := submitted_perform setup s c.privilege sqls
  rw [Service.call, compare_of_admitted setup s c h]
  show (sqls.zip (s.perform setup c.privilege sqls).1).map _ = _
  generalize (s.perform setup c.privilege sqls).1 = outcomes at hown
  have hzip : (outcomes.map Outcome.submitted).zip (outcomes.map id) = _ := List.zip_map'
  rw [hown, List.map_id] at hzip
  rw [hzip, List.map_map]
  rfl

/-- The outcomes that a call gives are those of its own statements. -/
theorem submitted_call (c : ServiceCall) :
    ∀ m ∈ c.attempts (s.call setup c).1, m.2.2.submitted = m.2.1 := by
  cases c with
  | execute c sql => exact List.forall_mem_singleton.mpr (submitted_execute setup s c sql)
  | explain c sql => exact List.forall_mem_nil _
  | compare c sqls =>
    by_cases hrefused : sqls = [] ∨ setup.compareLimit < sqls.length
    · obtain ⟨failure, hfailed⟩ := (compare_refused_iff setup s c sqls).mpr hrefused
      simp [Service.call, hfailed, ServiceCall.attempts]
    · rw [attempts_compare s c hrefused]
      intro m hm
      obtain ⟨o, -, rfl⟩ := List.mem_map.mp hm
      rfl

/-- **A call notes an attempt for each statement that it made.** -/
theorem recorder_call (records : setup.records = true) (c : ServiceCall) :
    (s.call setup c).2.recorder =
      { s.recorder with
        pending := s.recorder.pending ++ attemptsOf (c.attempts (s.call setup c).1) } := by
  cases c with
  | execute c sql => exact congrArg Service.recorder (noteAll_eq _ records ..)
  | explain c sql => simp [Service.call, ServiceCall.attempts, attemptsOf, Service.explain]
  | compare c sqls =>
    by_cases hrefused : sqls = [] ∨ setup.compareLimit < sqls.length
    · obtain ⟨failure, hfailed⟩ := (compare_refused_iff setup s c sqls).mpr hrefused
      simp [Service.call, hfailed, ServiceCall.attempts, attemptsOf]
    · rw [attempts_compare s c hrefused, attemptsOf, List.map_map]
      show (s.compare setup c sqls).2.recorder = _
      rw [compare_of_admitted setup s c hrefused, noteAll_eq _ records]
      rfl

/-- The replies of a session are those of the service to its calls. -/
theorem exists_of_mem_session {sink : Sink σ} {events : List ServiceEvent}
    {made : ServiceCall × ServiceReply} (h : made ∈ (s.session setup sink events).1) :
    ∃ s' : Service σ, made.2 = (s'.call setup made.1).1 := by
  induction events generalizing s with
  | nil => exact absurd h List.not_mem_nil
  | cons event events ih =>
    cases event with
    | call c =>
      rcases List.mem_cons.mp h with rfl | hlater
      · exact ⟨s, rfl⟩
      · exact ih _ hlater
    | write place => exact ih _ h
    | drift timeline => exact ih _ h

end Noted

/-! ## Attempts that are handed over -/

section Handed

variable {σ : Type} (sink : Sink σ)

/-- What the sink was handed, and what it has still to be handed. -/
def Recorder.ledger (r : Recorder (List Attempt × σ)) : List Attempt := r.recorded.1 ++ r.pending

/-- **A write moves an attempt from the pending ones to the sink**: none is lost and none is handed
over twice. -/
theorem ledger_writeAt (r : Recorder (List Attempt × σ)) (place : Nat) :
    (r.writeAt sink.noting place).ledger.Perm r.ledger := by
  unfold Recorder.writeAt
  split
  · rename_i a ha
    obtain ⟨hlt, rfl⟩ := List.getElem?_eq_some_iff.mp ha
    show ((r.recorded.1 ++ [r.pending[place]]) ++ r.pending.eraseIdx place).Perm
      (r.recorded.1 ++ r.pending)
    rw [List.append_assoc, List.singleton_append]
    exact (List.getElem_cons_eraseIdx_perm hlt).append_left _
  · exact .refl _

theorem ledger_writes (r : Recorder (List Attempt × σ)) (places : List Nat) :
    (r.writes sink.noting places).ledger.Perm r.ledger := by
  induction places generalizing r with
  | nil => exact .refl _
  | cons place places ih => exact (ih _).trans (ledger_writeAt sink r place)

/-- To hand over everything that is pending in its order is one of the orders. -/
theorem exists_writes_drain {τ : Type} (sink : Sink τ) (r : Recorder τ) :
    ∃ places, r.writes sink places = r.drain sink := by
  obtain ⟨pending, recorded⟩ := r
  refine ⟨List.replicate pending.length 0, ?_⟩
  induction pending generalizing recorded with
  | nil => rfl
  | cons a pending ih => exact ih _

/-- **In a session** each attempt of the statements that were made is handed over or pending. -/
theorem ledger_session {setup : ServiceSetup} (records : setup.records = true)
    (s : Service (List Attempt × σ)) (events : List ServiceEvent) :
    (s.session setup sink.noting events).2.recorder.ledger.Perm
      (s.recorder.ledger ++
        attemptsOf ((s.session setup sink.noting events).1.flatMap fun made =>
          made.1.attempts made.2)) := by
  induction events generalizing s with
  | nil => rw [Service.session, List.flatMap_nil, attemptsOf, List.map_nil, List.append_nil]
  | cons event events ih =>
    cases event with
    | call c =>
      refine (ih _).trans (.of_eq ?_)
      rw [recorder_call s records c]
      show _ = _ ++ attemptsOf (List.flatMap _ (_ :: _))
      rw [List.flatMap_cons, attemptsOf, attemptsOf, attemptsOf, List.map_append,
        ← List.append_assoc]
      rw [Recorder.ledger, Recorder.ledger, List.append_assoc _ s.recorder.pending]
    | write place => exact (ih _).trans ((ledger_writeAt sink s.recorder place).append_right _)
    | drift timeline => exact ih _

end Handed

/-! ## Replies do not depend on the sink -/

section Independent

variable {σ τ : Type} {setup : ServiceSetup} {s : Service σ} {t : Service τ}

theorem timeline_noteAll (user : Int) (outcomes : List Outcome) :
    (s.noteAll setup user outcomes).timeline = s.timeline := by
  unfold Service.noteAll
  split <;> rfl

/-- A call looks at the floor only. -/
theorem call_congr (setup : ServiceSetup) (h : s.timeline = t.timeline) (c : ServiceCall) :
    (s.call setup c).1 = (t.call setup c).1 ∧
      (s.call setup c).2.timeline = (t.call setup c).2.timeline := by
  obtain ⟨timeline, recorder⟩ := s
  obtain rfl : timeline = t.timeline := h
  cases c with
  | execute c sql =>
    refine ⟨rfl, ?_⟩
    show (Service.noteAll setup _ _ _).timeline = (Service.noteAll setup _ _ _).timeline
    rw [timeline_noteAll, timeline_noteAll]
  | explain c sql => exact ⟨rfl, rfl⟩
  | compare c sqls =>
    by_cases hrefused : sqls = [] ∨ setup.compareLimit < sqls.length
    · simp only [Service.call, Service.compare, List.isEmpty_iff]
      split
      · exact ⟨rfl, rfl⟩
      · rename_i hsome
        rw [if_pos (hrefused.resolve_left hsome), if_pos (hrefused.resolve_left hsome)]
        exact ⟨rfl, rfl⟩
    · rw [Service.call, Service.call, compare_of_admitted _ _ c hrefused,
        compare_of_admitted _ _ c hrefused]
      refine ⟨rfl, ?_⟩
      show (Service.noteAll setup _ _ _).timeline = (Service.noteAll setup _ _ _).timeline
      rw [timeline_noteAll, timeline_noteAll]
      rfl

/-- **What the sink does changes no reply**, nor does it matter when the recorders run. -/
theorem session_congr (sink : Sink σ) (other : Sink τ) (h : s.timeline = t.timeline)
    (events : List ServiceEvent) :
    (s.session setup sink events).1 = (t.session setup other (withoutWrites events)).1 := by
  induction events generalizing s t with
  | nil => rfl
  | cons event events ih =>
    cases event with
    | call c =>
      obtain ⟨hreply, hafter⟩ := call_congr setup h c
      show (c, (s.call setup c).1) :: _ = (c, (t.call setup c).1) :: _
      rw [hreply, ih hafter]
      rfl
    | write place => exact ih (s := { s with recorder := _ }) h
    | drift timeline => exact ih (s := { s with timeline }) (t := { t with timeline }) rfl

end Independent

/-! ## Every statement is recorded once -/

/-- **Every statement is recorded once**, in whatever order the recorders run and whichever writes
fail. When nothing is pending any more, as at the end of the service, the sink was handed one
attempt for each statement that was executed, and for each statement of a comparison that was not
turned down, and no other attempt; each of them tells what its caller was told. A comparison that is
turned down does nothing at all. The replies are the same with any other sink. -/
theorem recorded_once {σ : Type} (setup : ServiceSetup) (records : setup.records = true)
    (sink : Sink σ) (workers : Nat) (recorded : σ) (events : List ServiceEvent) :
    let session := (Service.start workers ([], recorded)).session setup sink.noting events
    (∃ attempts,
      List.Forall₂ Tells (session.1.flatMap fun made => made.1.attempts made.2) attempts ∧
      (∀ places, (session.2.recorder.writes sink.noting places).pending = [] →
        (session.2.recorder.writes sink.noting places).recorded.1.Perm attempts) ∧
      (session.2.shutdown sink.noting).1.Perm attempts) ∧
    (∀ {τ : Type} (s : Service τ) (c : Caller) (sqls : List Sql),
      if sqls = [] ∨ setup.compareLimit < sqls.length then
        ∃ failure, s.compare setup c sqls = (.error failure, s)
      else ∃ outcomes, (s.compare setup c sqls).1 = .ok outcomes ∧
        outcomes.length = sqls.length) ∧
    ∀ {τ : Type} (other : Sink τ) (fresh : τ) (events' : List ServiceEvent),
      withoutWrites events' = withoutWrites events →
        ((Service.start workers fresh).session setup other events').1 = session.1 := by
  intro session
  have hdone : ∀ places,
      (session.2.recorder.writes sink.noting places).pending = [] →
        (session.2.recorder.writes sink.noting places).recorded.1.Perm
          (attemptsOf (session.1.flatMap fun made => made.1.attempts made.2)) := by
    intro places hnone
    have hledger := (ledger_writes sink session.2.recorder places).trans
      (ledger_session sink records _ events)
    rwa [Recorder.ledger, hnone, List.append_nil] at hledger
  refine ⟨⟨_, tells_attemptsOf ?_, hdone, ?_⟩, fun s c sqls => ?_,
    fun other fresh events' hsame => ?_⟩
  · intro m hm
    obtain ⟨made, hmade, hm⟩ := List.mem_flatMap.mp hm
    obtain ⟨s', hreply⟩ := exists_of_mem_session _ hmade
    rw [hreply] at hm
    exact submitted_call s' made.1 m hm
  · obtain ⟨places, hplaces⟩ := exists_writes_drain sink.noting session.2.recorder
    have hdrained := hdone places
    rw [hplaces] at hdrained
    exact hdrained rfl
  · split
    · rename_i hrefused
      exact (compare_refused_iff setup s c sqls).mpr hrefused
    · rename_i hadmitted
      rw [compare_of_admitted setup s c hadmitted]
      refine ⟨_, rfl, ?_⟩
      rw [← List.length_map Outcome.submitted, submitted_perform]
  · have hthis : session.1 = _ := session_congr sink.noting sink.noting rfl events
    rw [hthis, ← hsame]
    exact session_congr other sink.noting rfl events'

/-- A sink that fails at every second write. -/
def tornSink : Sink Nat where
  write _ n := (if n % 2 = 0 then some ⟨.persistence, "disk full"⟩ else none, n + 1)

/-- An administrator's statement that is refused, a comparison that is turned down, and one of a
statement that is refused. The recorder of the second attempt runs before that of the first. -/
def tornEvents : List ServiceEvent :=
  [.call (.execute ⟨7, .admin⟩ "DROP DATABASE a".toList), .call (.compare ⟨7, .admin⟩ []),
   .call (.compare ⟨8, .standard⟩ ["DELETE FROM a".toList]), .write 1]

/-- Two statements are recorded by a sink that fails at the first write. -/
theorem recorded_once_torn :
    ∃ attempts : List Attempt, List.Forall₂ Tells
        [(⟨7, .admin⟩, "DROP DATABASE a".toList,
          .refused "DROP DATABASE a".toList "Forbidden SQL command detected"),
         (⟨8, .standard⟩, "DELETE FROM a".toList, .refused "DELETE FROM a".toList
           "Only SELECT statements are allowed for non-admin users")] attempts ∧
      (((Service.start 1 ([], 0)).session {} tornSink.noting tornEvents).2.shutdown
        tornSink.noting).1.Perm attempts := by
  obtain ⟨⟨attempts, htells, -, hhanded⟩, -, -⟩ := recorded_once {} rfl tornSink 1 0 tornEvents
  exact ⟨attempts, (congrArg (List.Forall₂ Tells · attempts) (by decide +kernel)).mp htells,
    hhanded⟩

end QueryGate
