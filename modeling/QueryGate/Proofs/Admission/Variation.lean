import QueryGate.Proofs.Admission.Cap

/-!
# How a verdict varies

A verdict belongs to a statement, a caller and a gate. Here one of them changes and the others stay.

* An `EXPLAIN` in front of the statement stands in front of what is admitted, and changes no
  refusal.
* What a caller's privilege and the allow-list may decide, they decide for a core that has passed
  the other rules: `refused_or_plain`. So an administrator may do what a standard caller may, a
  longer allow-list refuses nothing more, and what is refused to an administrator is refused to
  everybody.
* The row limit decides nothing. It is the number in an appended limit: `SameButLimit`.

Headlines: **`explain_transparent`**, **`judge_monotone`**.
-/

namespace QueryGate.Gate

open Text Sql

variable {g : Gate} {p : Privilege} {sql c q : Sql} {heads : List (Sql × Sql)}

/-! ## EXPLAINs in front -/

theorem reheaded_nil (v : Verdict) : reheaded [] v = v := by
  cases v <;> rfl

/-- **The verdict behind any `EXPLAIN`s**, each with a gap behind it, is the one without them. -/
theorem judge_headText (g : Gate) (p : Privilege) (sql : Sql)
    (hheads : ∀ kw ∈ heads, Spells explainWord kw.1 ∧ AllBlank kw.2 ∧ kw.2 ≠ []) :
    g.judge p (headText heads ++ sql) = reheaded heads (g.judge p sql) := by
  induction heads with
  | nil => exact (reheaded_nil _).symm
  | cons kw heads ih =>
    obtain ⟨⟨hk, hw, hne⟩, hheads⟩ := List.forall_mem_cons.mp hheads
    rw [headText, List.append_assoc, judge_behind g p hk hw hne, ih hheads]
    exact (reheaded_cons ..).symm

theorem explained_eq_accepted_iff {k : Sql} {v : Verdict} :
    explained k v = .accepted q ↔ ∃ s, v = .accepted s ∧ q = k ++ ' ' :: s := by
  cases v with
  | accepted s =>
    simp only [explained, Verdict.accepted.injEq, exists_eq_left']
    exact eq_comm
  | rejected r => simp [explained]

theorem explained_eq_rejected_iff {k : Sql} {v : Verdict} {reason : Refusal} :
    explained k v = .rejected reason ↔ v = .rejected reason := by
  cases v <;> simp [explained]

/-- **`EXPLAIN ` in front is transparent.** The statement is admitted behind it iff it is admitted
without it, and what is admitted is then `EXPLAIN ` and what is admitted without it. It is refused
behind it iff it is refused without it, for the same reason. -/
theorem explain_transparent (g : Gate) (p : Privilege) (sql : Sql) :
    (∀ q, g.judge p ("EXPLAIN ".toList ++ sql) = .accepted q ↔
      ∃ q', g.judge p sql = .accepted q' ∧ q = "EXPLAIN ".toList ++ q') ∧
    ∀ reason, g.judge p ("EXPLAIN ".toList ++ sql) = .rejected reason ↔
      g.judge p sql = .rejected reason := by
  have hheads : ∀ kw ∈ [("EXPLAIN".toList, [' '])],
      Spells explainWord kw.1 ∧ AllBlank kw.2 ∧ kw.2 ≠ [] :=
    List.forall_mem_singleton.mpr ⟨by decide, by decide, by simp⟩
  have hbehind : g.judge p ("EXPLAIN ".toList ++ sql) =
      explained "EXPLAIN".toList (g.judge p sql) := by
    have h := judge_headText g p sql hheads
    rwa [reheaded_cons, reheaded_nil] at h
  rw [hbehind]
  exact ⟨fun q => explained_eq_accepted_iff, fun reason => explained_eq_rejected_iff⟩

/-! ## What the gate may decide -/

/-- **A statement is refused by every gate to every caller, or it is for the gate to decide on its
core.** -/
theorem refused_or_plain (sql : Sql) :
    (∃ reason, ∀ (g : Gate) p, g.judge p sql = .rejected reason) ∨
      ∃ heads c, Layers heads (trim sql) c ∧
        ∀ (g : Gate) p, g.judge p sql = reheaded heads (g.judgePlain p c) := by
  obtain ⟨heads, c, hl⟩ := Layers.exists_of_startsBlank (trim sql) (startsBlank_trim sql)
  by_cases hsecond : Sql.hasSecondStatement (trim sql) = true
  · exact Or.inl ⟨.manyStatements, fun g p => by rw [judge_eq g p hl, if_pos hsecond]⟩
  by_cases hforbidden : Sql.hasForbidden (trim sql) = true
  · refine Or.inl ⟨.forbiddenCommand, fun g p => ?_⟩
    rw [judge_eq g p hl, if_neg hsecond, if_pos hforbidden]
  by_cases hempty : c = []
  · refine Or.inl ⟨.empty, fun g p => ?_⟩
    rw [judge_eq g p hl, if_neg hsecond, if_neg hforbidden, if_pos hempty]
  · refine Or.inr ⟨heads, c, hl, fun g p => ?_⟩
    rw [judge_eq g p hl, if_neg hsecond, if_neg hforbidden, if_neg hempty]

/-- Nothing is refused to an administrator on account of the core. -/
theorem judgePlain_admin (g : Gate) (c : Sql) : g.judgePlain .admin c = .accepted (g.withLimit c) :=
  rfl

/-- The limit that a core gets does not depend on the allow-list. -/
theorem withLimit_congr {g' : Gate} (h : g.maxRows = g'.maxRows) (c : Sql) :
    g.withLimit c = g'.withLimit c := by
  unfold withLimit limitClause
  rw [h]

/-- **What a standard caller may do an administrator may**, whatever is allow-listed. -/
theorem judge_admin_of_standard {g' : Gate} (hrows : g.maxRows = g'.maxRows)
    (h : g.judge .standard sql = .accepted q) : g'.judge .admin sql = .accepted q := by
  rcases refused_or_plain sql with ⟨reason, hall⟩ | ⟨heads, c, -, hall⟩
  · rw [hall] at h
    exact absurd h (by simp)
  · rw [hall, reheaded_eq_accepted_iff] at h
    obtain ⟨s, hs, rfl⟩ := h
    obtain ⟨-, rfl⟩ := judgePlain_eq_accepted_iff.mp hs
    rw [hall, judgePlain_admin, withLimit_congr hrows]
    rfl

/-- **A longer allow-list refuses nothing more.** -/
theorem judge_standard_of_subset {g' : Gate} (hrows : g.maxRows = g'.maxRows)
    (hsub : g.allowed.tables ⊆ g'.allowed.tables) (h : g.judge .standard sql = .accepted q) :
    g'.judge .standard sql = .accepted q := by
  rcases refused_or_plain sql with ⟨reason, hall⟩ | ⟨heads, c, -, hall⟩
  · rw [hall] at h
    exact absurd h (by simp)
  · rw [hall, reheaded_eq_accepted_iff] at h
    obtain ⟨s, hs, rfl⟩ := h
    obtain ⟨hcore, rfl⟩ := judgePlain_eq_accepted_iff.mp hs
    obtain ⟨hselect, htables⟩ := hcore rfl
    have hmore : ∀ t ∈ c.tableNames, g'.allowed.contains t = true := fun t ht =>
      (AllowList.contains_iff _ t).mpr (hsub ((AllowList.contains_iff _ t).mp (htables t ht)))
    rw [hall, reheaded_eq_accepted_iff]
    exact ⟨_, judgePlain_eq_accepted_iff.mpr
      ⟨fun _ => ⟨hselect, hmore⟩, withLimit_congr hrows c⟩, rfl⟩

/-- **What is refused to an administrator is refused to everybody**, for the same reason. -/
theorem judge_of_admin_rejected {reason : Refusal} (h : g.judge .admin sql = .rejected reason)
    (g' : Gate) (p : Privilege) : g'.judge p sql = .rejected reason := by
  rcases refused_or_plain sql with ⟨reason', hall⟩ | ⟨heads, c, -, hall⟩
  · rw [hall] at h ⊢
    exact h
  · rw [hall, judgePlain_admin] at h
    exact absurd h (by simp [reheaded])

/-! ## The row limit -/

/-- The verdicts under the row limits `n` and `m` are the same, but that the number of a limit that
was appended is the one or the other. -/
inductive SameButLimit (n m : Nat) : Verdict → Verdict → Prop
  | rejected (reason : Refusal) : SameButLimit n m (.rejected reason) (.rejected reason)
  | unchanged (q : Sql) : SameButLimit n m (.accepted q) (.accepted q)
  /-- The limit was appended: the text before it has none. -/
  | capped {q : Sql} (unlimited : ¬ LimitIn q) :
      SameButLimit n m (.accepted (q ++ " LIMIT ".toList ++ Nat.toDigits 10 n))
        (.accepted (q ++ " LIMIT ".toList ++ Nat.toDigits 10 m))

theorem respaced_append (heads : List (Sql × Sql)) (a b : Sql) :
    respaced heads (a ++ b) = respaced heads a ++ b := by
  induction heads with
  | nil => rfl
  | cons kw heads ih =>
    rw [respaced, respaced, ih]
    simp only [List.append_assoc, List.cons_append]

/-- A text with a limit keeps it, whatever is put behind. -/
theorem limitIn_append {a : Sql} (h : LimitIn a) (b : Sql) : LimitIn (a ++ b) := by
  obtain ⟨before, hb, w, gap, d, after, rfl, hrest⟩ := h
  exact ⟨before, hb, w, gap, d, after ++ b, by simp only [List.append_assoc, List.cons_append],
    hrest⟩

/-- The stem of a core is a core. -/
theorem layers_stem (hl : Layers heads (trim sql) c) :
    Layers (spaced heads) (respaced heads (stem c)) (stem c) := by
  obtain ⟨rest, hc, -⟩ := stem_split c
  have hstarts : startsBlank (stem c) = false := by
    by_cases hn : stem c = []
    · rw [hn]; rfl
    · rw [← startsBlank_append hn (b := rest), ← hc]
      exact hl.startsBlank_core
  have hplain : startsWord explainWord (stem c) = false := by
    have hstem : startsWord explainWord (stem c ++ []) = true ↔ startsWord explainWord c = true :=
      startsWord_stem_iff proper_explainWord rfl
    rw [List.append_nil, hl.plain_core] at hstem
    rw [← Bool.not_eq_true]
    exact mt hstem.mp Bool.false_ne_true
  exact layers_respaced (fun kw hkw => (hl.spells_of_mem kw hkw).1) hstarts hplain

/-- Where the gate appends a limit, the text before it has none. -/
theorem not_limitIn_before (hl : Layers heads (trim sql) c) (h : ¬ LimitIn c) :
    ¬ LimitIn (respaced heads (stem c)) := by
  have hstem := layers_stem hl
  rw [hstem.text, hstem.front_core.limitIn_iff]
  obtain ⟨rest, hc, -⟩ := stem_split c
  intro hlimit
  apply h
  rw [hc]
  exact limitIn_append hlimit rest

/-- What two gates make of a core differs in the number of an appended limit only. -/
theorem respaced_withLimit_sameButLimit (g g' : Gate) (hl : Layers heads (trim sql) c) :
    SameButLimit g.maxRows g'.maxRows (.accepted (respaced heads (g.withLimit c)))
      (.accepted (respaced heads (g'.withLimit c))) := by
  unfold withLimit
  by_cases hlimit : c.hasLimit = true
  · rw [if_pos hlimit, if_pos hlimit]
    exact .unchanged _
  rw [if_neg hlimit, if_neg hlimit]
  by_cases hselect : c.startsSelect = true
  · have hcapped (h : Gate) : respaced heads (stem c ++ h.limitClause) =
        respaced heads (stem c) ++ " LIMIT ".toList ++ Nat.toDigits 10 h.maxRows :=
      (respaced_append ..).trans (List.append_assoc ..).symm
    have hunlimited := not_limitIn_before hl (mt hasLimit_iff.mpr hlimit)
    have h := SameButLimit.capped (n := g.maxRows) (m := g'.maxRows) hunlimited
    rw [← hcapped g, ← hcapped g'] at h
    rw [if_pos hselect, if_pos hselect]
    exact h
  · rw [if_neg hselect, if_neg hselect]
    exact .unchanged _

/-- **The row limit is the number in an appended limit and nothing else.** -/
theorem judge_sameButLimit (g g' : Gate) (hallowed : g.allowed = g'.allowed) (p : Privilege)
    (sql : Sql) : SameButLimit g.maxRows g'.maxRows (g.judge p sql) (g'.judge p sql) := by
  rcases refused_or_plain sql with ⟨reason, hall⟩ | ⟨heads, c, hl, hall⟩
  · rw [hall, hall]
    exact .rejected reason
  have hlimit := respaced_withLimit_sameButLimit g g' hl
  rw [hall, hall]
  cases p with
  | admin => exact hlimit
  | standard =>
    have hdenied : g.deniedTable? c = g'.deniedTable? c := by
      unfold deniedTable?
      rw [hallowed]
    simp only [judgePlain, Privilege.isAdmin, Bool.false_eq_true, if_false, hdenied]
    split
    · cases g'.deniedTable? c with
      | some t => exact .rejected _
      | none => exact hlimit
    · exact .rejected _

/-! ## Summary -/

/-- **A verdict is monotone in the privilege and in the allow-list, and independent of the row
limit.** What a standard caller may do under one allow-list, an administrator may under every one
and a standard caller under every longer one, in the same form. What is refused to an administrator
is refused to a standard caller under every allow-list, for the same reason. Under another row limit
the verdict is the same, but for the number in an appended limit. -/
theorem judge_monotone (g : Gate) (sql : Sql) :
    (∀ q, g.judge .standard sql = .accepted q →
      (∀ b, Gate.judge { g with allowed := b } .admin sql = .accepted q) ∧
        ∀ b : AllowList, g.allowed.tables ⊆ b.tables →
          Gate.judge { g with allowed := b } .standard sql = .accepted q) ∧
    (∀ reason, g.judge .admin sql = .rejected reason →
      ∀ b, Gate.judge { g with allowed := b } .standard sql = .rejected reason) ∧
    ∀ p m, SameButLimit g.maxRows m (g.judge p sql) (Gate.judge { g with maxRows := m } p sql) := by
  refine ⟨fun q hq => ⟨fun b => ?_, fun b hsub => ?_⟩, fun reason hr b => ?_, fun p m => ?_⟩
  · exact judge_admin_of_standard (g := g) rfl hq
  · exact judge_standard_of_subset (g := g) rfl hsub hq
  · exact judge_of_admin_rejected hr _ .standard
  · exact judge_sameButLimit g { g with maxRows := m } rfl p sql

/-- The allow-list with one more table. -/
def longerList : AllowList :=
  .ofNames (["users".toList] ++ AllowList.sampleTables.map String.toList)

/-- An explained statement of a standard caller, and one that is refused to everybody. -/
theorem judge_monotone_sample :
    Gate.judge {} .standard "EXPLAIN  SELECT * FROM sample_orders;".toList =
        .accepted "EXPLAIN SELECT * FROM sample_orders LIMIT 1000".toList ∧
      Gate.judge { allowed := longerList } .standard
        "EXPLAIN  SELECT * FROM sample_orders;".toList =
          .accepted "EXPLAIN SELECT * FROM sample_orders LIMIT 1000".toList ∧
      Gate.judge { allowed := longerList } .standard "SELECT 1; drop  USER x".toList =
        .rejected .manyStatements := by
  have hq : Gate.judge {} .standard "EXPLAIN  SELECT * FROM sample_orders;".toList =
      .accepted "EXPLAIN SELECT * FROM sample_orders LIMIT 1000".toList := by decide +kernel
  have hr : Gate.judge {} .admin "SELECT 1; drop  USER x".toList = .rejected .manyStatements := by
    decide +kernel
  have hsub : AllowList.sample.tables ⊆ longerList.tables := by
    have hall : ∀ t ∈ AllowList.sample.tables, t ∈ longerList.tables := by decide +kernel
    exact fun t ht => hall t ht
  exact ⟨hq, ((judge_monotone {} _).1 _ hq).2 longerList hsub,
    (judge_monotone {} _).2.1 _ hr longerList⟩

end QueryGate.Gate
