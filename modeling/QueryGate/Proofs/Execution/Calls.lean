import QueryGate.Execution.Submission
import QueryGate.Proofs.Admission.Rewriting

/-!
# What reaches the database

A statement is checked as it was submitted, and the database is given what admission made of it.
The client of the database is arbitrary here: it may answer, fail or let the deadline pass, and
change a state of its own, as it likes.

* `noting client`: the client, which also notes what it is asked for.
* `requestsOf`: what was asked for in all.
* `Passable p q`: the database may be given `q` for a caller with privilege `p`.

Headline: **`requests_safe`**: whatever the client does, a refused statement asks it for nothing and
any other one at most once; every text that it is given is passable, and it runs no `EXPLAIN`.
-/

namespace QueryGate

open Text Sql

section Noting

variable {σ α : Type}

/-- The client, which notes each request before it carries it out. -/
def noting (client : Request → StateM σ (Ending × Nat)) (request : Request) :
    StateT (List Request) (StateM σ) (Ending × Nat) := do
  modify (· ++ [request])
  client request

/-- The requests that are made from a state of the client on. -/
def requestsOf (act : StateT (List Request) (StateM σ) α) (s : σ) : List Request :=
  ((act.run []).run s).1.2

variable (g : Gate) (p : Privilege) (sql : Sql) (client : Request → StateM σ (Ending × Nat)) (s : σ)

theorem requestsOf_executeIn :
    requestsOf (g.executeIn (noting client) p sql) s = (g.submit p sql).request?.toList := by
  unfold Gate.executeIn
  cases g.submit p sql <;> rfl

theorem requestsOf_explainIn :
    requestsOf (g.explainIn (noting client) p sql) s = (g.submitPlan p sql).request?.toList := by
  unfold Gate.explainIn
  cases g.submitPlan p sql <;> rfl

theorem elapsed?_ofEnding (submitted processed : Sql) (request : Request) (ending : Ending)
    (elapsed : Nat) :
    (Outcome.ofEnding submitted processed request ending elapsed).elapsed? = some elapsed := by
  rcases ending with (failure | run) | - <;> rfl

theorem elapsed?_executeIn :
    ((g.executeIn client p sql).run s).1.elapsed? = none ↔
      ∃ reason, g.submit p sql = .refused reason := by
  unfold Gate.executeIn
  cases g.submit p sql with
  | refused reason => exact ⟨fun _ => ⟨reason, rfl⟩, fun _ => rfl⟩
  | admitted processed request =>
    refine ⟨fun h => ?_, fun ⟨_, h⟩ => absurd h (by simp)⟩
    exact absurd ((elapsed?_ofEnding ..).symm.trans h) (by simp)

end Noting

namespace Gate

variable {g : Gate} {p : Privilege} {sql c q : Sql} {heads : List (Sql × Sql)}

/-! ## What an admitted statement asks for -/

/-- The database may be given the text for a caller with this privilege. -/
structure Passable (p : Privilege) (q : Sql) : Prop where
  permitted : ¬ Forbidden q
  single : ¬ SecondStatement q
  select : p = .standard → ∃ heads c, Layers heads q c ∧ BeginsWith selectWord c

/-- **A text is passable behind any `EXPLAIN`s** once its core was admitted and got its limit. -/
theorem Admitted.passable (h : Admitted g p sql heads c) {heads' : List (Sql × Sql)}
    (hheads : ∀ kw ∈ heads', Spells explainWord kw.1) :
    Passable p (respaced heads' (g.withLimit c)) := by
  have hsend := sendable_withLimit g h.sendable
  have hlayers := layers_respaced hheads hsend.starts hsend.plain
  refine ⟨mt hlayers.forbidden_iff.mp hsend.permitted,
    mt hlayers.secondStatement_iff.mp hsend.single, fun hp => ⟨_, _, hlayers, ?_⟩⟩
  rw [← startsWord_iff, startsWord_select_withLimit]
  exact h.select hp

theorem splitExplain_respaced (hheads : ∀ kw ∈ heads, Spells explainWord kw.1)
    (hb : startsBlank c = false) (hx : startsWord explainWord c = false) :
    (respaced heads c).splitExplain = heads.head?.map fun kw => (kw.1, respaced heads.tail c) := by
  cases heads with
  | nil => exact (splitExplain_eq_none_iff hb).mpr hx
  | cons kw heads =>
    obtain ⟨hk, hheads⟩ := List.forall_mem_cons.mp hheads
    have hin := (layers_respaced hheads hb hx).startsBlank
    rw [respaced, List.append_cons]
    exact Layers.splitExplain_explain hk (by decide) hin
      (endsWord_of_gap (by decide) (by simp) _)

/-- **What an admitted statement asks for when it is executed**: to run its core, which is no
`EXPLAIN`, or to probe what stands behind its first `EXPLAIN`. -/
theorem Admitted.executed (h : Admitted g p sql heads c) {r : Request}
    (hr : r = .ofAdmitted (respaced heads (g.withLimit c))) :
    Passable p r.sql ∧ ∀ q, r = .run q → ¬ BeginsWith explainWord (trimStart q) := by
  have hsend := sendable_withLimit g h.sendable
  have hheads := fun kw hkw => (h.layers.spells_of_mem kw hkw).1
  rw [hr]
  unfold Request.ofAdmitted
  rw [splitExplain_respaced hheads hsend.starts hsend.plain]
  cases heads with
  | nil =>
    refine ⟨h.passable hheads, fun q hq => ?_⟩
    rw [← Request.run.inj hq, respaced, trimStart_of_startsBlank hsend.starts, ← startsWord_iff,
      hsend.plain]
    exact Bool.false_ne_true
  | cons kw heads =>
    exact ⟨h.passable (List.forall_mem_cons.mp hheads).2, fun q hq => absurd hq (by simp)⟩

/-- What it asks for when it is explained: to probe what stands behind its first `EXPLAIN`, if it
has one. -/
theorem Admitted.explained (h : Admitted g p sql heads c) {r : Request}
    (hr : r = .planOf (respaced heads (g.withLimit c))) :
    Passable p r.sql ∧ ∃ q, r = .probe q := by
  have hsend := sendable_withLimit g h.sendable
  have hheads := fun kw hkw => (h.layers.spells_of_mem kw hkw).1
  rw [hr]
  unfold Request.planOf
  rw [splitExplain_respaced hheads hsend.starts hsend.plain]
  cases heads with
  | nil => exact ⟨h.passable hheads, _, rfl⟩
  | cons kw heads => exact ⟨h.passable (List.forall_mem_cons.mp hheads).2, _, rfl⟩

theorem submit_eq_refused_iff {reason : Refusal} :
    g.submit p sql = .refused reason ↔ g.judge p sql = .rejected reason := by
  unfold submit
  cases g.judge p sql <;> simp

/-- **Only safe texts reach the database**, at most one for each statement that was admitted and
none for one that was refused. A plan is probed without running anything, no `EXPLAIN` is run, and
the outcome has a time unless the statement was refused. -/
theorem requests_safe (g : Gate) (p : Privilege) (sql : Sql) {σ : Type}
    (client : Request → StateM σ (Ending × Nat)) (s : σ) :
    let executed := requestsOf (g.executeIn (noting client) p sql) s
    let explained := requestsOf (g.explainIn (noting client) p sql) s
    ((∃ reason, g.judge p sql = .rejected reason) → executed = [] ∧ explained = []) ∧
      executed.length ≤ 1 ∧ explained.length ≤ 1 ∧
      (∀ r ∈ explained, ∃ q, r = .probe q) ∧
      (∀ r ∈ executed ++ explained, Passable p r.sql) ∧
      (∀ q, .run q ∈ executed → ¬ BeginsWith explainWord (trimStart q)) ∧
      (((g.executeIn client p sql).run s).1.elapsed? = none ↔
        ∃ reason, g.judge p sql = .rejected reason) := by
  have helapsed := elapsed?_executeIn g p sql client s
  simp only [submit_eq_refused_iff] at helapsed
  rw [requestsOf_executeIn, requestsOf_explainIn, helapsed]
  unfold submit submitPlan
  cases hj : g.judge p sql with
  | rejected reason => simp [Submission.request?]
  | accepted q =>
    obtain ⟨heads, c, ha, rfl⟩ := judge_eq_accepted_iff.mp hj
    obtain ⟨hpass, hplain⟩ := ha.executed rfl
    obtain ⟨hpass', hprobe⟩ := ha.explained rfl
    refine ⟨fun h => absurd h (by simp), Nat.le_refl 1, Nat.le_refl 1,
      List.forall_mem_singleton.mpr hprobe,
      List.forall_mem_cons.mpr ⟨hpass, List.forall_mem_singleton.mpr hpass'⟩, ?_, by simp⟩
    exact fun q hq => hplain q (List.mem_singleton.mp hq).symm

end Gate

end QueryGate
