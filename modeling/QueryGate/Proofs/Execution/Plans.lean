import QueryGate.Execution.Script
import QueryGate.Proofs.Execution.Calls

/-!
# Two ways to a plan

The plan of a statement can be had in two ways: the statement is executed behind the word `EXPLAIN`,
or it is explained. The gate treats both texts alike and the database is asked for one plan.

* `submitted_alike`: what the two ways make of a statement at the gate.
* `PlanAnswer.Matches a o`: the answer `a` to a request for a plan and the outcome `o` of an
  execution tell the same.

Headline: **`plans_agree`**: the two ways ask the database for the same, and what they report
matches, if a plan depends on nothing but the text that it is asked for.
-/

namespace QueryGate

open Text Sql

/-! ## At the gate -/

namespace Gate

variable {g : Gate} {p : Privilege} {sql q : Sql}

/-- A text that begins with a word when it is trimmed begins with it behind its blanks. -/
theorem startsWord_of_trim {k : Keyword} (h : startsWord k (trim sql) = true) :
    startsWord k (trimStart sql) = true := by
  obtain ⟨w, after, hcut, hw, he⟩ := startsWord_iff.mp h
  obtain ⟨trail, ht, hsplit⟩ := trimEnd_split (trimStart sql)
  refine startsWord_iff.mpr ⟨w, after ++ trail, ?_, hw, endsWord_both he (endsWord_of_allBlank ht)⟩
  rw [← List.append_assoc, ← hcut]
  exact hsplit

/-- A statement that is no `EXPLAIN` is not accepted as one. -/
theorem plain_of_judge (hplain : ¬ BeginsWith explainWord (trimStart sql))
    (hj : g.judge p sql = .accepted q) :
    startsBlank q = false ∧ startsWord explainWord q = false := by
  obtain ⟨heads, c, ha, rfl⟩ := judge_eq_accepted_iff.mp hj
  have hsend := sendable_withLimit g ha.sendable
  have hstart : startsWord explainWord (trim sql) = false := by
    rw [Bool.eq_false_iff]
    exact fun h => hplain (startsWord_iff.mp (startsWord_of_trim h))
  obtain ⟨rfl, -⟩ := ha.layers.unique (.core (startsBlank_trim sql) hstart)
  exact ⟨hsend.starts, hsend.plain⟩

/-- **The two ways to a plan submit alike.** They refuse a statement that is no `EXPLAIN` itself for
the same reason, or they ask for the plan of the same text; and it makes no difference to an
explanation whether the word `EXPLAIN` stands there. -/
theorem submitted_alike (g : Gate) (p : Privilege)
    (hplain : ¬ BeginsWith explainWord (trimStart sql)) :
    (∃ reason, g.submit p ("EXPLAIN ".toList ++ sql) = .refused reason ∧
        g.submitPlan p sql = .refused reason ∧
        g.submitPlan p ("EXPLAIN ".toList ++ sql) = .refused reason) ∨
      ∃ q, g.submit p ("EXPLAIN ".toList ++ sql) = .admitted ("EXPLAIN ".toList ++ q) (.probe q) ∧
        g.submitPlan p sql = .admitted q (.probe q) ∧
        g.submitPlan p ("EXPLAIN ".toList ++ sql) =
          .admitted ("EXPLAIN ".toList ++ q) (.probe q) := by
  have hgap : AllBlank [' '] := by decide
  have hjudge : g.judge p ("EXPLAIN ".toList ++ sql) = explained "EXPLAIN".toList (g.judge p sql) :=
    judge_behind g p (k := "EXPLAIN".toList) (by decide) hgap (by simp) sql
  unfold submit submitPlan
  rw [hjudge]
  cases hj : g.judge p sql with
  | rejected reason => exact Or.inl ⟨reason, rfl, rfl, rfl⟩
  | accepted q =>
    obtain ⟨hb, hx⟩ := plain_of_judge hplain hj
    have hnone : q.splitExplain = none := (splitExplain_eq_none_iff hb).mpr hx
    have hsome : Sql.splitExplain ("EXPLAIN".toList ++ ' ' :: q) = some ("EXPLAIN".toList, q) := by
      rw [List.append_cons]
      exact Layers.splitExplain_explain (by decide) (by decide) hb
        (endsWord_of_gap (by decide) (by simp) _)
    right
    refine ⟨q, ?_, ?_, ?_⟩
    · simp only [explained, Request.ofAdmitted, hsome]
      rfl
    · simp only [Request.planOf, hnone]
    · simp only [explained, Request.planOf, hsome]
      rfl

end Gate

/-! ## Reports -/

/-- The answer to a request for a plan and the outcome of an execution tell the same: both are
successes or neither is, with the same message, and the rows of the execution are the steps of the
plan, with the same summary. -/
structure PlanAnswer.Matches (a : PlanAnswer) (o : Outcome) : Prop where
  success : a.isSuccess = o.isSuccess
  message : a.message? = o.message?
  rows : ∀ {submitted processed run elapsed}, o = .success submitted processed run elapsed →
    a.steps = run.result.rows ∧ a.steps.indexUsed = run.plan.indexUsed ∧
      a.steps.rowsScanned = run.plan.rowsScanned

theorem matches_refused (submitted : Sql) (reason : String) :
    (PlanAnswer.failed reason).Matches (.refused submitted reason) :=
  ⟨rfl, rfl, fun h => absurd h (by simp)⟩

/-- **However a probe ends, it is reported alike.** -/
theorem matches_ofEnding (submitted processed q : Sql) (ending : Ending) (elapsed : Nat) :
    (PlanAnswer.ofEnding ending).Matches
      (.ofEnding submitted processed (.probe q) ending elapsed) := by
  rcases ending with (failure | run) | -
  · exact ⟨rfl, rfl, fun h => absurd h (by simp [Outcome.ofEnding])⟩
  · refine ⟨rfl, rfl, fun h => ?_⟩
    obtain ⟨-, -, rfl, -⟩ := Outcome.success.inj h
    exact ⟨rfl, rfl, rfl⟩
  · exact ⟨rfl, rfl, fun h => absurd h (by simp [Outcome.ofEnding])⟩

/-! ## Agreement -/

namespace Gate

/-- **The two ways to a plan agree.** Let the answer to a probe depend on the probed text only,
whatever state the database is in. Then a statement that is no `EXPLAIN` itself is executed behind
`EXPLAIN ` and explained with the same requests, none or one probe, and the reports match. Nor does
it matter to an explanation whether `EXPLAIN ` stands in front. -/
theorem plans_agree (g : Gate) (p : Privilege) (sql : Sql)
    (hplain : ¬ BeginsWith explainWord (trimStart sql)) {σ : Type}
    (client : Request → StateM σ (Ending × Nat)) (answer : Sql → Ending)
    (hsteady : ∀ q s, ((client (.probe q)).run s).1.1 = answer q) (s s' : σ) :
    let behind := "EXPLAIN ".toList ++ sql
    let asked := requestsOf (g.executeIn (noting client) p behind) s
    (asked = [] ∨ ∃ q, asked = [.probe q]) ∧
      requestsOf (g.explainIn (noting client) p sql) s' = asked ∧
      requestsOf (g.explainIn (noting client) p behind) s' = asked ∧
      ((g.explainIn client p sql).run s').1.Matches ((g.executeIn client p behind).run s).1 ∧
      ((g.explainIn client p behind).run s').1 = ((g.explainIn client p sql).run s).1 := by
  intro behind asked
  have hasked : asked = (g.submit p behind).request?.toList := requestsOf_executeIn ..
  rw [requestsOf_explainIn, requestsOf_explainIn, hasked]
  unfold executeIn explainIn
  rcases submitted_alike g p hplain with ⟨reason, hrun, hplan, hbehind⟩ | ⟨q, hrun, hplan, hbehind⟩
  · rw [hrun, hplan, hbehind]
    exact ⟨Or.inl rfl, rfl, rfl, matches_refused _ _, rfl⟩
  · rw [hrun, hplan, hbehind]
    have hsame : ((client (.probe q)).run s').1.1 = ((client (.probe q)).run s).1.1 := by
      rw [hsteady, hsteady]
    refine ⟨Or.inr ⟨q, rfl⟩, rfl, rfl, ?_, congrArg PlanAnswer.ofEnding hsame⟩
    show (PlanAnswer.ofEnding ((client (.probe q)).run s').1.1).Matches
      (.ofEnding behind ("EXPLAIN ".toList ++ q) (.probe q) ((client (.probe q)).run s).1.1 _)
    rw [hsame]
    exact matches_ofEnding ..

/-- A database that counts its requests and answers each probe with one plan. -/
def countingClient : Request → StateM Nat (Ending × Nat) := fun _ n =>
  ((.answered (.ok { plan := samplePlan }), n), n + 1)

/-- A `SELECT` behind blanks is explained as it is executed behind `EXPLAIN`, with the plan as its
rows. -/
theorem plans_agree_sample :
    let sql : Sql := " select * from sample_orders;".toList
    let answer := ((Gate.explainIn {} countingClient .standard sql).run 7).1
    answer.Matches
        ((Gate.executeIn {} countingClient .standard ("EXPLAIN ".toList ++ sql)).run 0).1 ∧
      answer.steps = samplePlan := by
  have hplain : ¬ BeginsWith explainWord (trimStart " select * from sample_orders;".toList) := by
    rw [← startsWord_iff]
    decide
  obtain ⟨-, -, -, hmatches, -⟩ := plans_agree {} .standard _ hplain countingClient
    (fun _ => .answered (.ok { plan := samplePlan })) (fun _ _ => rfl) 0 7
  exact ⟨hmatches, by decide +kernel⟩

end Gate

end QueryGate
