import QueryGate.Proofs.Execution.Plans
import QueryGate.Proofs.Sandbox.Rollback
import QueryGate.Sandbox.FileClient

/-!
# A statement waits for its plan

The plan of a statement is probed before the statement is run, inside the same transaction. So a
statement that the database runs, but cannot explain, is not run at all: its caller is told what the
database said to the probe. The labels of an empty result, which are asked for after the statement,
do no such harm when the database cannot tell them.

* `Performs respond cs s s'`: the database carries out the commands `cs` from its state `s` on.
  `answers respond cs s`: it answers them in time, in whatever way.
* `Backend.client`: a caller's client of a database that may leave commands unanswered. The clients
  of files and of servers are such clients (`ending_eq_client`, `Server.Client.ask_eq_client`).

Results:
* `converse_unit`: a unit whose transaction has begun goes on with `planned`.
* `converse_planned`: how that ends, by the answer to the probe.

Headline: **`plan_decides`**; `unexplained_not_run` is a server on which it matters.
-/

namespace QueryGate

open Text Sql

/-! ## Databases that may not answer -/

section Answers

variable {α σ : Type} (respond : σ → (c : Command) → Option c.Result × σ)

/-- The database carries out the commands one after the other. -/
inductive Performs : List Command → σ → σ → Prop
  | nil (s : σ) : Performs [] s s
  | cons {c : Command} {cs : List Command} {s s' : σ} (answer : c.Answer)
      (done : (respond s c).1 = some (.ok answer)) (more : Performs cs (respond s c).2 s') :
      Performs (c :: cs) s s'

/-- The database answers the commands one after the other before the deadline. -/
def answers : List Command → σ → Bool
  | [], _ => true
  | c :: cs, s => (respond s c).1.isSome && answers cs (respond s c).2

variable {respond}

theorem converse_answered {c : Command} {next : c.Result → Dialogue α} {result : c.Result} {s : σ}
    (h : (respond s c).1 = some result) :
    (Dialogue.issue c next).converse respond s =
      (next result).converse respond (respond s c).2 := by
  rw [Dialogue.converse]
  rcases hr : respond s c with ⟨answer, s'⟩
  rw [hr] at h
  obtain rfl : answer = some result := h
  rfl

theorem converse_unanswered {c : Command} {next : c.Result → Dialogue α} {s : σ}
    (h : (respond s c).1 = none) :
    (Dialogue.issue c next).converse respond s = (.error c, (respond s c).2) := by
  rw [Dialogue.converse]
  rcases hr : respond s c with ⟨answer, s'⟩
  rw [hr] at h
  obtain rfl : answer = none := h
  rfl

/-- A database that answers every command before the deadline. -/
def prompt (respond : σ → (c : Command) → c.Result × σ) (s : σ) (c : Command) :
    Option c.Result × σ :=
  (some (respond s c).1, (respond s c).2)

theorem converse_prompt (respond : σ → (c : Command) → c.Result × σ) (d : Dialogue α) (s : σ) :
    d.converse (prompt respond) s = (.ok (d.play respond s).2.1, (d.play respond s).2.2) := by
  induction d generalizing s with
  | done a => rfl
  | issue c next ih => exact ih _ _

end Answers

/-! ## Clients -/

/-- How a conversation ends for its caller, who waits in vain for a command without an answer. -/
def endingOf : Except Command Reply → Ending
  | .ok reply => .answered reply
  | .error _ => .timedOut

/-- A caller's client of a database that may leave commands unanswered. -/
def Backend.client {σ : Type} (b : Backend) (ms : Nat)
    (respond : σ → (c : Command) → Option c.Result × σ) (r : Request) :
    StateM σ (Ending × Nat) := fun s =>
  let (result, s) := (b.unit ms r).converse respond s
  ((endingOf result, 0), s)

/-- The client of a file is such a client, of a database that answers at once. -/
theorem ending_eq_client {c : FileClient} (hopen : c.closed = false) (ms : Nat) (r : Request) :
    c.ending r = ((Backend.sqlite.client ms (prompt Transaction.respond) r).run
      ⟨c.database, c.database⟩).1 := by
  have hclient : ((Backend.sqlite.client ms (prompt Transaction.respond) r).run
      ⟨c.database, c.database⟩).1 =
        (endingOf ((r.unit.converse (prompt Transaction.respond) ⟨c.database, c.database⟩).1), 0) :=
    rfl
  rw [hclient, converse_prompt]
  unfold FileClient.ending FileClient.answer
  rw [if_neg Bool.false_ne_true, if_neg (by simp [hopen])]
  rfl

namespace Server.Client

/-- A client whose next unit has asked for its connection. -/
def acquiring (c : Client) : Client :=
  ({ c with logins := c.supply.2.2 }.happen .arrive).happen
    (.acquire c.connections.units.length c.supply.1)

/-- The client of a server is such a client once it has a connection. -/
theorem ask_eq_client {c : Client} (hopen : c.closed = false) (hsupply : c.supply.2.1 = none)
    {number : Nat} {begun : Bool}
    (hstage : c.acquiring.stage? c.connections.units.length = some (.working number begun))
    (ms : Nat) (r : Request) :
    (c.ask ms r).1 = ((Backend.mysql.client ms Talk.respond r).run
      { client := c.acquiring, number, unit := c.connections.units.length }).1.1 := by
  show _ = endingOf ((timedUnit ms r).converse Talk.respond
    { client := c.acquiring, number, unit := c.connections.units.length }).1
  unfold ask
  rw [if_neg (by simp [hopen])]
  unfold acquiring at hstage ⊢
  dsimp only
  generalize ({ c with logins := c.supply.2.2 }.happen .arrive).happen
    (.acquire c.connections.units.length c.supply.1) = held at hstage ⊢
  split
  · rename_i hheld
    obtain ⟨rfl, -⟩ : _ ∧ _ := Stage.working.inj (Option.some.inj (hstage.symm.trans hheld))
    rcases (timedUnit ms r).converse Talk.respond
      { client := held, number, unit := c.connections.units.length } with ⟨hung | reply, talk⟩
    · cases hung <;> rfl
    · cases hspoiled : talk.rollbackFailed <;> simp [hspoiled, endingOf]
  · rename_i hnone
    exact absurd hstage (hnone _ _ hsupply)

end Server.Client

/-! ## A unit and its plan -/

/-- What a unit does before it probes the plan. -/
def Backend.opening : Backend → Nat → List Command
  | .mysql, ms => [.limitTime ms, .connectionNumber, .begin]
  | .sqlite, _ => [.begin]

/-- What a unit does behind a statement that ran. -/
def settling (q : Sql) : List Record → List Command
  | [] => [.describe q, .rollback]
  | _ :: _ => [.rollback]

section Unit

variable {σ : Type} {respond : σ → (c : Command) → Option c.Result × σ} {s s₁ : σ} {q : Sql}
  {rows : List Record}

theorem converse_closing (reply : Reply) (s : σ) : ((closing reply).converse respond s).1 =
    if answers respond [.rollback] s then .ok reply else .error .rollback := by
  unfold closing answers
  rcases h : (respond s .rollback).1 with _ | result
  · rw [converse_unanswered h]
    rfl
  · rw [converse_answered h]
    rfl

/-- A reply with rows is given if the rollback is answered. -/
theorem converse_closing_rows (plan : Plan) (columns : List String) (rows : List Record) (s : σ) :
    if answers respond [.rollback] s then
      ∃ columns', ((closing (.ok ⟨plan, ⟨columns, rows⟩⟩)).converse respond s).1 =
        .ok (.ok ⟨plan, ⟨columns', rows⟩⟩)
    else ∃ c, ((closing (.ok ⟨plan, ⟨columns, rows⟩⟩)).converse respond s).1 = .error c := by
  rw [converse_closing]
  by_cases hrest : answers respond [.rollback] s = true
  · rw [if_pos hrest, if_pos hrest]
    exact ⟨columns, rfl⟩
  · rw [if_neg hrest, if_neg hrest]
    exact ⟨_, rfl⟩

/-- What a unit does inside its transaction. -/
def planned (q : Sql) : Dialogue Reply :=
  .issue (.probe q) fun
    | .error report => closing (.error (queryFailure report))
    | .ok plan => .issue (.run q) fun
      | .error report => closing (.error (queryFailure report))
      | .ok [] => .issue (.describe q) fun described =>
        let columns := match described with
          | .ok labels => labels
          | .error _ => []
        closing (.ok ⟨plan, ⟨columns, []⟩⟩)
      | .ok (row :: rows) => closing (.ok ⟨plan, ⟨row.labels, row :: rows⟩⟩)

theorem runUnit_eq (q : Sql) : runUnit q = .issue .begin fun
    | .error report => .done (.error (queryFailure report))
    | .ok () => planned q := rfl

/-- **A unit whose transaction has begun** goes on with the plan of its statement. -/
theorem converse_unit {b : Backend} {ms : Nat} (h : Performs respond (b.opening ms) s s₁) :
    (b.unit ms (.run q)).converse respond s = (planned q).converse respond s₁ := by
  have hbegun : ∀ {s}, Performs respond [.begin] s s₁ →
      (runUnit q).converse respond s = (planned q).converse respond s₁ := by
    rintro s (_ | ⟨⟨⟩, hbegin, ⟨⟩⟩)
    rw [runUnit_eq, converse_answered hbegin]
  cases b with
  | sqlite => exact hbegun h
  | mysql =>
    rcases h with _ | ⟨⟨⟩, hlimit, _ | ⟨number, hnumber, hbegin⟩⟩
    show (timedUnit ms (.run q)).converse respond s = _
    rw [timedUnit, converse_answered hlimit]
    simp only
    rw [converse_answered hnumber]
    exact hbegun hbegin

/-- A statement whose plan the database does not tell before the deadline is not run. -/
theorem converse_unprobed (h : (respond s (.probe q)).1 = none) :
    ((planned q).converse respond s).1 = .error (.probe q) := by
  unfold planned
  rw [converse_unanswered h]

/-- **A statement whose plan the database cannot tell is not run.** -/
theorem converse_unplanned {report : String}
    (h : (respond s (.probe q)).1 = some (.error report)) :
    ((planned q).converse respond s).1 =
      if answers respond [.rollback] (respond s (.probe q)).2 then
        .ok (.error (queryFailure report))
      else .error .rollback := by
  unfold planned
  rw [converse_answered h]
  exact converse_closing ..

/-- **A statement whose plan the database tells is run**, and its rows are the reply if the database
answers what comes behind it, too. -/
theorem converse_planned {plan : Plan} (hplan : (respond s (.probe q)).1 = some (.ok plan))
    (hruns : (respond (respond s (.probe q)).2 (.run q)).1 = some (.ok rows)) :
    if answers respond (settling q rows) (respond (respond s (.probe q)).2 (.run q)).2 then
      ∃ columns, ((planned q).converse respond s).1 = .ok (.ok ⟨plan, ⟨columns, rows⟩⟩)
    else ∃ c, ((planned q).converse respond s).1 = .error c := by
  unfold planned
  rw [converse_answered hplan]
  simp only
  rw [converse_answered hruns]
  generalize (respond (respond s (.probe q)).2 (.run q)).2 = s₂
  cases rows with
  | cons row rows => exact converse_closing_rows plan row.labels (row :: rows) s₂
  | nil =>
    rcases hdescribe : (respond s₂ (.describe q)).1 with _ | described
    · rw [converse_unanswered hdescribe]
      simp [settling, answers, hdescribe]
    · have hsettle : answers respond (settling q []) s₂ =
          answers respond [.rollback] (respond s₂ (.describe q)).2 := by
        simp [settling, answers, hdescribe]
      rw [converse_answered hdescribe, hsettle]
      exact converse_closing_rows ..

end Unit

/-! ## The outcome of a statement -/

namespace Gate

variable {g : Gate} {p : Privilege} {sql q : Sql}

/-- A statement that is no `EXPLAIN` is run as it is admitted. -/
theorem submit_of_plain (hplain : ¬ BeginsWith explainWord (trimStart sql))
    (hq : g.judge p sql = .accepted q) : g.submit p sql = .admitted q (.run q) := by
  obtain ⟨hb, hx⟩ := plain_of_judge hplain hq
  have hrun : Request.ofAdmitted q = .run q := by
    unfold Request.ofAdmitted
    rw [(splitExplain_eq_none_iff hb).mpr hx]
  unfold submit
  rw [hq]
  exact congrArg (Submission.admitted q) hrun

/-- **A plan that cannot be told blocks its statement.** Let a statement that is no `EXPLAIN` be
admitted, and let the database begin a transaction and answer the statement with rows in it. Then
the statement succeeds, with these rows, if and only if the database tells its plan, too, and
answers what follows before the deadline. Where the probe of the plan fails the caller gets the
report of that failure, although the statement would have run. -/
theorem plan_decides {σ : Type} {respond : σ → (c : Command) → Option c.Result × σ} {b : Backend}
    {ms : Nat} {s s₁ : σ} {rows : List Record} (hq : g.judge p sql = .accepted q)
    (hplain : ¬ BeginsWith explainWord (trimStart sql))
    (hbegun : Performs respond (b.opening ms) s s₁)
    (hruns : (respond (respond s₁ (.probe q)).2 (.run q)).1 = some (.ok rows)) :
    let outcome := ((g.executeIn (b.client ms respond) p sql).run s).1
    let probed := respond s₁ (.probe q)
    (outcome.isSuccess = true ↔ (∃ plan, probed.1 = some (.ok plan)) ∧
        answers respond (settling q rows) (respond probed.2 (.run q)).2 = true) ∧
      (outcome.isSuccess = true → ∃ plan columns, probed.1 = some (.ok plan) ∧
        outcome = .success sql q ⟨plan, ⟨columns, rows⟩⟩ 0) ∧
      ∀ report, probed.1 = some (.error report) →
        outcome = if answers respond [.rollback] probed.2 then .fault sql report 0
          else .timeout sql 0 := by
  intro outcome probed
  have houtcome : outcome =
      .ofEnding sql q (.run q) (endingOf ((planned q).converse respond s₁).1) 0 := by
    show ((g.executeIn (b.client ms respond) p sql).run s).1 = _
    rw [executeIn, submit_of_plain hplain hq, ← converse_unit hbegun]
    rfl
  rw [houtcome]
  rcases hprobe : probed.1 with _ | (report | plan)
  · rw [converse_unprobed hprobe]
    simp [endingOf, Outcome.ofEnding, Outcome.isSuccess]
  · rw [converse_unplanned hprobe]
    by_cases hrest : answers respond [.rollback] probed.2 = true
    · rw [if_pos hrest]
      simp [endingOf, Outcome.ofEnding, Outcome.isSuccess, queryFailure, Failure.report, hrest]
    · rw [if_neg hrest]
      simp [endingOf, Outcome.ofEnding, Outcome.isSuccess, hrest]
  · have hreply := converse_planned hprobe hruns
    by_cases hrest : answers respond (settling q rows) (respond probed.2 (.run q)).2 = true
    · rw [if_pos hrest] at hreply
      obtain ⟨columns, hreply⟩ := hreply
      rw [hreply]
      simp [endingOf, Outcome.ofEnding, Outcome.isSuccess, Request.present, hrest]
      exact ⟨columns, rfl⟩
    · rw [if_neg hrest] at hreply
      obtain ⟨c, hreply⟩ := hreply
      rw [hreply]
      simp [endingOf, Outcome.ofEnding, Outcome.isSuccess, hrest]

/-- A server that runs `SHOW TABLES` and cannot explain it. -/
def showServer : Server.Script where
  rules :=
    [("EXPLAIN SHOW".toList, .fail ⟨1064, some "42000", "You have an error in your SQL syntax"⟩),
     ("SHOW TABLES".toList, .rows [⟨"Tables", "VARCHAR"⟩] [[some [111, 114, 100, 101, 114, 115]]])]

/-- How that server answers on one connection. -/
def showAnswer (_ : Unit) (c : Command) : Option c.Result × Unit :=
  ((showServer.reply (c.text .mysql)).result? 1 c, ())

theorem performs_show : Performs showAnswer (Backend.mysql.opening 30000) () () :=
  .cons () rfl (.cons (1 : Nat) rfl (.cons () rfl (.nil ())))

/-- The statement that this server runs fails all the same. -/
theorem plan_decides_show :
    (showAnswer () (.run "SHOW TABLES".toList)).1 = some (.ok [⟨[("Tables", .text "orders")]⟩]) ∧
      ((executeIn {} (Backend.mysql.client 30000 showAnswer) .admin
        "SHOW TABLES".toList).run ()).1 =
        .fault "SHOW TABLES".toList
          "ERROR 1064 (42000): You have an error in your SQL syntax" 0 := by
  have hq : Gate.judge {} .admin "SHOW TABLES".toList = .accepted "SHOW TABLES".toList := by
    decide +kernel
  have hplain : ¬ BeginsWith explainWord (trimStart "SHOW TABLES".toList) := by
    rw [← startsWord_iff]
    decide
  have hruns : (showAnswer () (.run "SHOW TABLES".toList)).1 =
      some (.ok [⟨[("Tables", .text "orders")]⟩]) := rfl
  refine ⟨hruns, ?_⟩
  exact (plan_decides hq hplain performs_show hruns).2.2
    "ERROR 1064 (42000): You have an error in your SQL syntax" rfl

/-- **A statement that the server would run** is not sent to it, because its plan cannot be told. -/
theorem unexplained_not_run :
    let client := (Server.Client.connect showServer { database := some "app".toList } 8).2
    (showServer.reply "SHOW TABLES".toList).result? 1 (.run "SHOW TABLES".toList) =
        some (.ok [⟨[("Tables", .text "orders")]⟩]) ∧
      (client.execute {} 30000 .admin "SHOW TABLES".toList).1 =
        .fault "SHOW TABLES".toList "ERROR 1064 (42000): You have an error in your SQL syntax" 0 ∧
      ((1 : Nat), "SHOW TABLES".toList) ∉
        (client.execute {} 30000 .admin "SHOW TABLES".toList).2.log :=
  ⟨rfl, by decide +kernel, by decide +kernel⟩

end Gate

end QueryGate
