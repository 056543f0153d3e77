import QueryGate.Admission.Gate
import QueryGate.Proofs.Admission.Layers

/-!
# The verdict in closed form

`Gate.judge` checks a statement, takes off an `EXPLAIN` and begins again with what is left. The
checks on the inner statements find nothing that the checks on the whole text did not find, so the
verdict is that of one pass over the text and one look at its core.

* `judge_eq`: the verdict from the layers of the trimmed text.
* `judge_eq_accepted_iff`: a statement is accepted iff it is `Admitted`, and then as its `EXPLAIN`s,
  one space behind each, and its core with a limit.
-/

namespace QueryGate.Gate

open Text Sql

/-- The `EXPLAIN`s as they are written, one space behind each, before a statement. -/
def respaced : List (Sql × Sql) → Sql → Sql
  | [], s => s
  | (k, _) :: heads, s => k ++ ' ' :: respaced heads s

/-- The verdict on an explained statement, from the verdict on its core. -/
def reheaded (heads : List (Sql × Sql)) : Verdict → Verdict
  | .accepted s => .accepted (respaced heads s)
  | .rejected r => .rejected r

variable {g : Gate} {p : Privilege} {sql c q : Sql} {heads : List (Sql × Sql)}

theorem reheaded_cons (k w : Sql) (heads : List (Sql × Sql)) (v : Verdict) :
    reheaded ((k, w) :: heads) v = explained k (reheaded heads v) := by
  cases v <;> rfl

theorem reheaded_eq_accepted_iff {v : Verdict} :
    reheaded heads v = .accepted q ↔ ∃ s, v = .accepted s ∧ q = respaced heads s := by
  cases v with
  | accepted s =>
    simp only [reheaded, Verdict.accepted.injEq, exists_eq_left']
    exact eq_comm
  | rejected r => simp [reheaded]

/-! ## Checks on inner statements -/

theorem hasSecondStatement_of_suffix {a b : Sql} (h : (a ++ b).hasSecondStatement = false) :
    b.hasSecondStatement = false := by
  rw [Bool.eq_false_iff] at h ⊢
  intro hb
  apply h
  obtain ⟨before, gap, d, after, rfl, hrest⟩ := hasSecondStatement_iff.mp hb
  exact hasSecondStatement_iff.mpr ⟨a ++ before, gap, d, after, (List.append_assoc ..).symm, hrest⟩

theorem hasForbidden_of_front {front rest : Sql} (hf : Front front rest)
    (h : Sql.hasForbidden (front ++ rest) = false) : rest.hasForbidden = false := by
  rw [Bool.eq_false_iff] at h ⊢
  exact fun hb => h (hasForbidden_iff.mpr (hf.forbidden_iff.mpr (hasForbidden_iff.mp hb)))

theorem not_secondStatement_nil : Sql.hasSecondStatement [] = false := rfl

theorem not_forbidden_nil : Sql.hasForbidden [] = false := by decide

/-! ## One step of the judgement -/

/-- The verdict on a text that begins with no `EXPLAIN`. -/
theorem judge_of_plain (g : Gate) (p : Privilege) (ht : trim sql = c) (hb : startsBlank c = false)
    (hx : startsWord explainWord c = false) :
    g.judge p sql =
      if c = [] then .rejected .empty
      else if c.hasSecondStatement then .rejected .manyStatements
      else if c.hasForbidden then .rejected .forbiddenCommand
      else g.judgePlain p c := by
  have hnone := (splitExplain_eq_none_iff hb).mpr hx
  rw [judge, ht]
  simp only [List.isEmpty_iff]
  split
  · rfl
  · split
    · rfl
    · split
      · rfl
      · split
        · rename_i hsome
          rw [hnone] at hsome
          exact absurd hsome (by simp)
        · rfl

/-- The verdict on an explained statement. -/
theorem judge_of_explain (g : Gate) (p : Privilege) {k w s : Sql} (ht : trim sql = k ++ w ++ s)
    (hk : Spells explainWord k) (hw : AllBlank w) (hs : startsBlank s = false)
    (hwhole : endsWord (w ++ s) = true) :
    g.judge p sql =
      if Sql.hasSecondStatement (k ++ w ++ s) then .rejected .manyStatements
      else if Sql.hasForbidden (k ++ w ++ s) then .rejected .forbiddenCommand
      else explained k (g.judge p s) := by
  have hsplit := Layers.splitExplain_explain hk hw hs hwhole
  have hne : k ++ w ++ s ≠ [] := by simp [hk.ne_nil proper_explainWord]
  rw [judge, ht]
  simp only [List.isEmpty_iff, hne, if_false]
  split
  · rfl
  · split
    · rfl
    · split
      · rename_i k' s' hsome
        rw [hsplit] at hsome
        simp only [Option.some.injEq, Prod.mk.injEq] at hsome
        rw [hsome.1, hsome.2]
      · rename_i hnone
        rw [hsplit] at hnone
        exact absurd hnone (by simp)

/-- **The verdict from the layers of the text.** -/
theorem judge_eq (g : Gate) (p : Privilege) (h : Layers heads (trim sql) c) :
    g.judge p sql =
      if Sql.hasSecondStatement (trim sql) then .rejected .manyStatements
      else if Sql.hasForbidden (trim sql) then .rejected .forbiddenCommand
      else if c = [] then .rejected .empty
      else reheaded heads (g.judgePlain p c) := by
  have hend := endsBlank_trim sql
  generalize ht : trim sql = t at h hend
  induction h generalizing sql with
  | @core c hb hx =>
    rw [judge_of_plain g p ht hb hx]
    by_cases hc : c = []
    · rw [hc, not_secondStatement_nil, not_forbidden_nil]
      rfl
    · simp only [hc, if_false]
      split
      · rfl
      · split
        · rfl
        · cases g.judgePlain p c <;> rfl
  | @explain k w s c heads hk hw hs hwhole hin ih =>
    rw [judge_of_explain g p ht hk hw hs hwhole]
    split
    · rfl
    · rename_i hsecond
      split
      · rfl
      · rename_i hforbidden
        -- what the checks did not find in the whole text, they do not find in the inner statement
        have hsecond' := hasSecondStatement_of_suffix (Bool.eq_false_iff.mpr hsecond)
        have hfront : Front (k ++ w ++ []) s := .explain hk hw hwhole (.nil s)
        rw [List.append_nil] at hfront
        have hforbidden' := hasForbidden_of_front hfront (Bool.eq_false_iff.mpr hforbidden)
        have hsend : endsBlank s = false := by
          by_cases hn : s = []
          · rw [hn]; rfl
          · rwa [endsBlank_append hn] at hend
        rw [ih (trim_eq_self hs hsend) hsend, hsecond', hforbidden']
        by_cases hc : c = []
        · simp only [hc, if_true]
          rfl
        · simp only [hc, if_false]
          exact (reheaded_cons ..).symm

/-! ## Accepted statements -/

theorem deniedTable?_eq_none_iff :
    g.deniedTable? c = none ↔ ∀ t ∈ c.tableNames, g.allowed.contains t = true := by
  unfold deniedTable?
  rw [List.find?_eq_none]
  exact forall₂_congr fun t _ => by simp

theorem judgePlain_eq_accepted_iff :
    g.judgePlain p c = .accepted q ↔
      (p = .standard → c.startsSelect = true ∧ ∀ t ∈ c.tableNames, g.allowed.contains t = true) ∧
        q = g.withLimit c := by
  cases p with
  | admin =>
    simp only [judgePlain, Privilege.isAdmin, if_true, Verdict.accepted.injEq]
    exact ⟨fun h => ⟨fun hp => absurd hp (by simp), h.symm⟩, fun h => h.2.symm⟩
  | standard =>
    rw [← deniedTable?_eq_none_iff]
    simp only [judgePlain, Privilege.isAdmin, Bool.false_eq_true, if_false, forall_const]
    cases c.startsSelect with
    | false => simp
    | true =>
      cases g.deniedTable? c with
      | none => simp [eq_comm]
      | some t => simp

/-- What admission demands of a statement with the given `EXPLAIN`s and core. -/
structure Admitted (g : Gate) (p : Privilege) (sql : Sql) (heads : List (Sql × Sql)) (c : Sql) :
    Prop where
  layers : Layers heads (trim sql) c
  ne_nil : c ≠ []
  single : ¬ SecondStatement (trim sql)
  permitted : ¬ Forbidden (trim sql)
  select : p = .standard → startsWord selectWord c = true
  tables : p = .standard → ∀ t ∈ c.tableNames, g.allowed.contains t = true

/-- **A statement is accepted iff it is admitted**, as its `EXPLAIN`s and its core with a limit. -/
theorem judge_eq_accepted_iff :
    g.judge p sql = .accepted q ↔
      ∃ heads c, Admitted g p sql heads c ∧ q = respaced heads (g.withLimit c) := by
  obtain ⟨heads, c, hl⟩ := Layers.exists_of_startsBlank (trim sql) (startsBlank_trim sql)
  have hcore := startsSelect_eq hl.startsBlank_core
  rw [judge_eq g p hl]
  constructor
  · intro h
    split at h
    · exact absurd h (by simp)
    · rename_i h2
      split at h
      · exact absurd h (by simp)
      · rename_i h3
        split at h
        · exact absurd h (by simp)
        · rename_i hc
          obtain ⟨s, hs, rfl⟩ := reheaded_eq_accepted_iff.mp h
          obtain ⟨hp, rfl⟩ := judgePlain_eq_accepted_iff.mp hs
          exact ⟨heads, c, ⟨hl, hc, mt hasSecondStatement_iff.mpr h2, mt hasForbidden_iff.mpr h3,
            fun hst => hcore ▸ (hp hst).1, fun hst => (hp hst).2⟩, rfl⟩
  · rintro ⟨heads', c', ha, rfl⟩
    obtain ⟨rfl, rfl⟩ := hl.unique ha.layers
    rw [if_neg (mt hasSecondStatement_iff.mp ha.single),
      if_neg (mt hasForbidden_iff.mp ha.permitted), if_neg ha.ne_nil]
    refine reheaded_eq_accepted_iff.mpr ⟨g.withLimit c, ?_, rfl⟩
    exact judgePlain_eq_accepted_iff.mpr
      ⟨fun hst => ⟨hcore ▸ ha.select hst, ha.tables hst⟩, rfl⟩

end QueryGate.Gate
