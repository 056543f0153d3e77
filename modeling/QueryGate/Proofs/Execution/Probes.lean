import QueryGate.Connection.Backend
import QueryGate.Proofs.Execution.Calls

/-!
# The EXPLAINs of a probe

The gate takes every `EXPLAIN` off the front of a statement before it checks the core. A request
for a plan takes off the first one only, and the backend puts its own lead before the rest. So the
probe of a statement with two `EXPLAIN`s or more asks for the plan of an `EXPLAIN`.

* `Layers.beginsWith_iff`: a text with layers begins with `EXPLAIN` iff it has one.
* `Admitted.executed_eq`, `Admitted.explained_eq`: the one request of an admitted statement.

Headline: **`probe_explains_iff`**: what is asked for behind the first `EXPLAIN` of an accepted
statement, and that it begins with an `EXPLAIN` iff the statement was submitted with two or more.
-/

namespace QueryGate

open Text Sql

/-- A text with layers begins with `EXPLAIN` iff it has one. -/
theorem Sql.Layers.beginsWith_iff {heads : List (Sql × Sql)} {s c : Sql} (h : Layers heads s c) :
    BeginsWith explainWord (trimStart s) ↔ heads ≠ [] := by
  rw [trimStart_of_startsBlank h.startsBlank, ← startsWord_iff]
  cases h with
  | core _ hplain => simp [hplain]
  | @explain k w s _ _ hk _ _ he _ =>
    have hstarts : startsWord explainWord (k ++ w ++ s) = true :=
      startsWord_iff.mpr ⟨k, w ++ s, List.append_assoc .., hk, he⟩
    exact ⟨fun _ => List.cons_ne_nil _ _, fun _ => hstarts⟩

namespace Gate

variable {g : Gate} {p : Privilege} {sql c : Sql} {heads : List (Sql × Sql)}

/-! ## The request of an admitted statement -/

theorem Admitted.splitExplain_eq (h : Admitted g p sql heads c) :
    (respaced heads (g.withLimit c)).splitExplain =
      heads.head?.map fun kw => (kw.1, respaced heads.tail (g.withLimit c)) := by
  have hsend := sendable_withLimit g h.sendable
  exact splitExplain_respaced (fun kw hkw => (h.layers.spells_of_mem kw hkw).1) hsend.starts
    hsend.plain

/-- Executed, it is run if it has no `EXPLAIN`, and probed behind its first one otherwise. -/
theorem Admitted.executed_eq (h : Admitted g p sql heads c) :
    Request.ofAdmitted (respaced heads (g.withLimit c)) =
      if heads = [] then .run (g.withLimit c)
      else .probe (respaced heads.tail (g.withLimit c)) := by
  unfold Request.ofAdmitted
  rw [h.splitExplain_eq]
  cases heads <;> rfl

/-- Explained, it is probed behind its first `EXPLAIN`, if it has one. -/
theorem Admitted.explained_eq (h : Admitted g p sql heads c) :
    Request.planOf (respaced heads (g.withLimit c)) =
      .probe (respaced heads.tail (g.withLimit c)) := by
  unfold Request.planOf
  rw [h.splitExplain_eq]
  cases heads <;> rfl

/-- What stands behind its first `EXPLAIN` has the others, one space behind each. -/
theorem Admitted.layers_tail (h : Admitted g p sql heads c) :
    Layers (spaced heads.tail) (respaced heads.tail (g.withLimit c)) (g.withLimit c) := by
  have hsend := sendable_withLimit g h.sendable
  refine layers_respaced (fun kw hkw => ?_) hsend.starts hsend.plain
  exact (h.layers.spells_of_mem kw (List.mem_of_mem_tail hkw)).1

theorem spaced_tail_ne_nil : spaced heads.tail ≠ [] ↔ 2 ≤ heads.length := by
  rcases heads with - | ⟨kw, - | ⟨kw', heads⟩⟩ <;> simp [spaced]

/-! ## The probe -/

/-- The `EXPLAIN` of the probe that MySQL is sent stands before those of the probed text. -/
theorem layers_planProbe {q : Sql} (h : Layers heads q c) :
    Layers (("EXPLAIN".toList, [' ']) :: heads) (Backend.mysql.planProbe q) c :=
  .explain (by decide) (by decide) h.startsBlank (endsWord_of_gap (by decide) (by simp) _) h

/-- **A probe asks for the plan of an `EXPLAIN`** iff the statement was submitted with two or more.
An accepted statement makes one request, whether executed or explained: to run its core, if it has
no `EXPLAIN` and is executed, and else to probe its core behind all its `EXPLAIN`s but the first.
The backend's own lead comes on top. -/
theorem probe_explains_iff (g : Gate) (p : Privilege) {sql c : Sql} {heads : List (Sql × Sql)}
    (hlayers : Layers heads (trim sql) c) (haccepted : ∃ s, g.judge p sql = .accepted s)
    {σ : Type} (client : Request → StateM σ (Ending × Nat)) (s : σ) :
    let executed := requestsOf (g.executeIn (noting client) p sql) s
    let explained := requestsOf (g.explainIn (noting client) p sql) s
    ∃ q, explained = [.probe q] ∧
      executed = (if heads = [] then [.run q] else [.probe q]) ∧
      (BeginsWith explainWord (trimStart q) ↔ 2 ≤ heads.length) ∧
      Layers (("EXPLAIN".toList, [' ']) :: spaced heads.tail) (Backend.mysql.planProbe q)
        (g.withLimit c) ∧
      ∀ b : Backend, b.planProbe q =
        b.explainLead.toList ++ ' ' :: (headText (spaced heads.tail) ++ g.withLimit c) := by
  obtain ⟨processed, hjudge⟩ := haccepted
  obtain ⟨heads', c', hadmitted, rfl⟩ := judge_eq_accepted_iff.mp hjudge
  obtain ⟨rfl, rfl⟩ := hlayers.unique hadmitted.layers
  have htail := hadmitted.layers_tail
  have hexplained : (g.submitPlan p sql).request?.toList =
      [.probe (respaced heads.tail (g.withLimit c))] := by
    unfold submitPlan
    rw [hjudge]
    exact congrArg (fun r => [r]) hadmitted.explained_eq
  have hexecuted : (g.submit p sql).request?.toList =
      if heads = [] then [.run (respaced heads.tail (g.withLimit c))]
      else [.probe (respaced heads.tail (g.withLimit c))] := by
    unfold submit
    rw [hjudge]
    refine (congrArg (fun r => [r]) hadmitted.executed_eq).trans ?_
    cases heads <;> rfl
  rw [requestsOf_executeIn, requestsOf_explainIn]
  exact ⟨_, hexplained, hexecuted, htail.beginsWith_iff.trans spaced_tail_ne_nil,
    layers_planProbe htail, fun b => congrArg (b.explainLead.toList ++ ' ' :: ·) htail.text⟩

def twiceExplained : Sql := "EXPLAIN EXPLAIN SELECT 1".toList

/-- Nobody answers. -/
def unanswered (_ : Request) : StateM Unit (Ending × Nat) := pure (.timedOut, 0)

/-- A statement behind two `EXPLAIN`s is probed behind the second one. -/
theorem probe_explains_iff_twice :
    Layers [("EXPLAIN".toList, [' ']), ("EXPLAIN".toList, [' '])] (trim twiceExplained)
        "SELECT 1".toList ∧
      (∃ s, Gate.judge {} .standard twiceExplained = .accepted s) ∧
      ∃ q, requestsOf (Gate.executeIn {} (noting unanswered) .standard twiceExplained) () =
          [.probe q] ∧
        BeginsWith explainWord (trimStart q) ∧
        Backend.mysql.planProbe q = "EXPLAIN EXPLAIN SELECT 1 LIMIT 1000".toList := by
  have hlayers : Layers [("EXPLAIN".toList, [' ']), ("EXPLAIN".toList, [' '])]
      (trim twiceExplained) "SELECT 1".toList :=
    .explain (by decide) (by decide) (by decide) (by decide) <|
      .explain (by decide) (by decide) (by decide) (by decide) <| .core (by decide) (by decide)
  have haccepted : ∃ s, Gate.judge {} .standard twiceExplained = .accepted s :=
    ⟨"EXPLAIN EXPLAIN SELECT 1 LIMIT 1000".toList, by decide +kernel⟩
  obtain ⟨q, -, hexecuted, hbegins, -, hprobe⟩ :=
    probe_explains_iff {} .standard hlayers haccepted unanswered ()
  have hcore : Gate.withLimit {} "SELECT 1".toList = "SELECT 1 LIMIT 1000".toList := by
    decide +kernel
  refine ⟨hlayers, haccepted, q, hexecuted, hbegins.mpr (by decide), ?_⟩
  rw [hprobe, hcore]
  decide

/-- So not every probed text is free of a leading `EXPLAIN`. -/
theorem second_explain_probed :
    ¬ ∀ (g : Gate) (p : Privilege) (sql q : Sql) (client : Request → StateM Unit (Ending × Nat)),
      (∃ s, g.judge p sql = .accepted s) →
      .probe q ∈ requestsOf (g.executeIn (noting client) p sql) () ++
        requestsOf (g.explainIn (noting client) p sql) () →
      ¬ BeginsWith explainWord (trimStart q) := by
  intro hclaim
  have hjudge : Gate.judge {} .standard twiceExplained =
      .accepted "EXPLAIN EXPLAIN SELECT 1 LIMIT 1000".toList := by decide +kernel
  have hexplained : requestsOf (Gate.explainIn {} (noting unanswered) .standard twiceExplained) () =
      [.probe "EXPLAIN SELECT 1 LIMIT 1000".toList] := by
    rw [requestsOf_explainIn, submitPlan, hjudge]
    decide
  refine hclaim {} .standard twiceExplained _ unanswered ⟨_, hjudge⟩
    (List.mem_append_right _ (hexplained ▸ List.mem_singleton_self _)) ?_
  rw [← startsWord_iff]
  decide

end Gate

end QueryGate
