import QueryGate.Proofs.Admission.Tables
import QueryGate.Proofs.Admission.Verdict
import QueryGate.Proofs.Text.LetterCase

/-!
# Admission does not see the case of letters

Every rule of admission gives the same answer for a text and for the text with its ASCII letters in
lower case, and what admission makes of the two differs in the case of ASCII letters only.

* `tableNames_uncased`: the scan for tables goes through both texts in step, and finds the same
  tables.
* `Layers.uncased`: both texts have the same number of `EXPLAIN`s, and the same core up to case.
* `judge_uncased`: the verdicts are the same up to the case of the text that is admitted.

Headline: **`judge_ignores_case`**.
-/

namespace QueryGate.Sql

open Text

@[simp] theorem isNameChar_lowerAscii (c : Char) : isNameChar (lowerAscii c) = isNameChar c :=
  lowerAscii_invariant (by decide) c

@[simp] theorem isDigit_lowerAscii (c : Char) : isDigit (lowerAscii c) = isDigit c :=
  lowerAscii_invariant (by decide) c

theorem isSemicolon_lowerAscii (c : Char) : (lowerAscii c == ';') = (c == ';') :=
  lowerAscii_invariant (f := (· == ';')) (by decide) c

/-! ## The rules -/

theorem hasSecondStatement_uncased (s : Sql) :
    Sql.hasSecondStatement (uncased s) = s.hasSecondStatement := by
  induction s with
  | nil => rfl
  | cons c s ih =>
    have hmore : (uncased s).any (!isBlank ·) = s.any (!isBlank ·) :=
      any_uncased (fun c => congrArg (!·) (isBlank_lowerAscii c)) s
    rw [uncased_cons, hasSecondStatement, hasSecondStatement, isSemicolon_lowerAscii, hmore, ih]

theorem hasForbidden_uncased (s : Sql) : Sql.hasForbidden (uncased s) = s.hasForbidden := by
  unfold hasForbidden
  simp only [containsPhrase_uncased]

theorem startsSelect_uncased (s : Sql) : Sql.startsSelect (uncased s) = s.startsSelect := by
  unfold startsSelect
  rw [trimStart_uncased, startsWord_uncased]

theorem startsLimit_uncased (s : Sql) : Sql.startsLimit (uncased s) = s.startsLimit := by
  unfold startsLimit
  rw [stripKeyword?_uncased]
  cases stripKeyword? limitWord s with
  | none => rfl
  | some rest =>
    simp only [Option.map_some, startsBlank_uncased, trimStart_uncased]
    cases trimStart rest with
    | nil => rfl
    | cons c after => exact congrArg (startsBlank rest && ·) (isDigit_lowerAscii c)

theorem hasLimit_uncased (s : Sql) : Sql.hasLimit (uncased s) = s.hasLimit :=
  anyWordStart_uncased startsLimit_uncased false s

theorem dropFinalSemicolon_uncased (s : Sql) :
    Sql.dropFinalSemicolon (uncased s) = uncased s.dropFinalSemicolon := by
  induction s with
  | nil => rfl
  | cons c s ih =>
    rw [uncased_cons, dropFinalSemicolon, dropFinalSemicolon, isSemicolon_lowerAscii,
      all_uncased isBlank_lowerAscii, ih]
    split <;> rfl

/-! ## Tables -/

/-- One reference is cut out alike. -/
theorem splitTable_uncased (s : Sql) :
    Sql.splitTable (uncased s) = s.splitTable.map (Prod.map uncased uncased) := by
  unfold splitTable
  rw [stripWord?_uncased, stripWord?_uncased, ← Option.map_or]
  cases (stripWord? fromWord s).or (stripWord? joinWord s) with
  | none => rfl
  | some rest =>
    simp only [Option.map_some, startsBlank_uncased, trimStart_uncased,
      takeWhile_uncased isNameChar_lowerAscii, dropWhile_uncased isNameChar_lowerAscii]
    cases startsBlank rest with
    | false => rfl
    | true =>
      simp only [if_true, List.isEmpty_iff, uncased_eq_nil_iff]
      split <;> rfl

/-- **The scan goes through both texts in step.** -/
theorem tableNamesFrom_uncased (inWord : Bool) (s : Sql) :
    tableNamesFrom inWord (uncased s) = (tableNamesFrom inWord s).map uncased := by
  fun_induction tableNamesFrom inWord s with
  | case1 inWord => rw [uncased_nil, tableNamesFrom, List.map_nil]
  | case2 inWord c s name rest hfound ih =>
    cases inWord with
    | true => exact absurd hfound (by simp)
    | false =>
      have hsplit : Sql.splitTable (uncased (c :: s)) = some (uncased name, uncased rest) := by
        rw [splitTable_uncased]
        exact congrArg (Option.map (Prod.map uncased uncased)) hfound
      rw [tableNamesFrom_of_splitTable hsplit, ih, List.map_cons]
  | case3 inWord c s hpass ih =>
    have hstep : inWord = true ∨ Sql.splitTable (uncased (c :: s)) = none := by
      cases inWord with
      | true => exact Or.inl rfl
      | false =>
        rw [splitTable_uncased]
        exact Or.inr (congrArg (Option.map (Prod.map uncased uncased)) hpass)
    rw [uncased_cons] at hstep ⊢
    rw [tableNamesFrom_cons hstep, isWord_lowerAscii, ih]

/-- The tables are the same, in the form in which the allow-list has them. -/
theorem tableNames_uncased (s : Sql) : Sql.tableNames (uncased s) = s.tableNames := by
  have hname (n : Sql) : tableName (uncased n) = tableName n := by
    have hquote (c : Char) : (lowerAscii c != '\x60') = (c != '\x60') :=
      lowerAscii_invariant (f := (· != '\x60')) (by decide) c
    unfold tableName
    rw [filter_uncased hquote, lower_uncased]
  rw [tableNames_eq, tableNames_eq, tableNamesFrom_uncased, List.map_map]
  exact congrArg (List.map · _) (funext hname)

/-! ## Layers -/

/-- The `EXPLAIN`s, and the blanks behind them, with ASCII letters in lower case. -/
def uncasedHeads (heads : List (Sql × Sql)) : List (Sql × Sql) :=
  heads.map (Prod.map uncased uncased)

/-- **Both texts have the same layers** up to case. -/
theorem Layers.uncased {heads : List (Sql × Sql)} {s c : Sql} (h : Layers heads s c) :
    Layers (uncasedHeads heads) (Text.uncased s) (Text.uncased c) := by
  induction h with
  | core starts plain =>
    exact .core ((startsBlank_uncased _).trans starts) ((startsWord_uncased _ _).trans plain)
  | explain spells blank starts whole _ ih =>
    rw [uncased_append, uncased_append]
    refine .explain spells.uncased (allBlank_uncased blank)
      ((startsBlank_uncased _).trans starts) ?_ ih
    rw [← uncased_append, endsWord_uncased]
    exact whole

end QueryGate.Sql

namespace QueryGate.Gate

open Text Sql

variable {heads : List (Sql × Sql)} {sql sql' : Sql}

/-! ## Verdicts -/

/-- The verdict with the ASCII letters of an admitted text in lower case. -/
def uncasedVerdict : Verdict → Verdict
  | .accepted s => .accepted (uncased s)
  | .rejected r => .rejected r

/-- Verdicts are the same up to case iff they are one refusal, or admit one text up to case. -/
theorem uncasedVerdict_eq_iff {v v' : Verdict} : uncasedVerdict v = uncasedVerdict v' ↔
    (∃ reason, v = .rejected reason ∧ v' = .rejected reason) ∨
      ∃ q q', v = .accepted q ∧ v' = .accepted q' ∧ uncased q = uncased q' := by
  cases v <;> cases v' <;> simp [uncasedVerdict, eq_comm]

/-- A limit is appended to both texts or to neither. -/
theorem uncased_withLimit (g : Gate) (c : Sql) :
    uncased (g.withLimit (uncased c)) = uncased (g.withLimit c) := by
  unfold withLimit
  rw [hasLimit_uncased, startsSelect_uncased, dropFinalSemicolon_uncased, trimEnd_uncased]
  cases c.hasLimit with
  | true => exact uncased_uncased c
  | false =>
    cases c.startsSelect with
    | true =>
      simp only [Bool.false_eq_true, if_false, if_true, uncased_append, uncased_uncased]
    | false => exact uncased_uncased c

theorem uncasedVerdict_judgePlain (g : Gate) (p : Privilege) (c : Sql) :
    uncasedVerdict (g.judgePlain p (uncased c)) = uncasedVerdict (g.judgePlain p c) := by
  have haccepted : uncasedVerdict (.accepted (g.withLimit (uncased c))) =
      uncasedVerdict (.accepted (g.withLimit c)) :=
    congrArg Verdict.accepted (uncased_withLimit g c)
  have hdenied : g.deniedTable? (uncased c) = g.deniedTable? c := by
    unfold deniedTable?
    rw [tableNames_uncased]
  unfold judgePlain
  rw [startsSelect_uncased, hdenied]
  split
  · exact haccepted
  · split
    · split
      · rfl
      · exact haccepted
    · rfl

theorem uncased_respaced {s s' : Sql} (h : uncased s' = uncased s) :
    uncased (respaced (uncasedHeads heads) s') = uncased (respaced heads s) := by
  induction heads with
  | nil => exact h
  | cons kw heads ih =>
    show uncased (uncased kw.1 ++ ' ' :: respaced (uncasedHeads heads) s') =
      uncased (kw.1 ++ ' ' :: respaced heads s)
    rw [uncased_append, uncased_append, uncased_cons, uncased_cons, uncased_uncased, ih]

theorem uncasedVerdict_reheaded {v v' : Verdict} (h : uncasedVerdict v' = uncasedVerdict v) :
    uncasedVerdict (reheaded (uncasedHeads heads) v') = uncasedVerdict (reheaded heads v) := by
  rcases uncasedVerdict_eq_iff.mp h with ⟨reason, rfl, rfl⟩ | ⟨q, q', rfl, rfl, hq⟩
  · rfl
  · exact congrArg Verdict.accepted (uncased_respaced hq)

/-- **The verdict on a text in lower case** is the verdict on the text up to case. -/
theorem judge_uncased (g : Gate) (p : Privilege) (sql : Sql) :
    uncasedVerdict (g.judge p (uncased sql)) = uncasedVerdict (g.judge p sql) := by
  obtain ⟨heads, c, hl⟩ := Layers.exists_of_startsBlank (trim sql) (startsBlank_trim sql)
  have hl' := hl.uncased
  rw [← trim_uncased] at hl'
  rw [judge_eq g p hl, judge_eq g p hl', trim_uncased, hasSecondStatement_uncased,
    hasForbidden_uncased]
  simp only [uncased_eq_nil_iff]
  split
  · rfl
  · split
    · rfl
    · split
      · rfl
      · exact uncasedVerdict_reheaded (uncasedVerdict_judgePlain g p c)

/-- **The case of ASCII letters never changes a verdict.** Two texts that differ in nothing else are
both refused, for the same reason with the same table in it, or both admitted, as texts that again
differ in the case of ASCII letters only. -/
theorem judge_ignores_case (g : Gate) (p : Privilege)
    (h : sql.map lowerAscii = sql'.map lowerAscii) :
    (∃ reason, g.judge p sql = .rejected reason ∧ g.judge p sql' = .rejected reason) ∨
      ∃ q q', g.judge p sql = .accepted q ∧ g.judge p sql' = .accepted q' ∧
        q.map lowerAscii = q'.map lowerAscii := by
  refine uncasedVerdict_eq_iff.mp ?_
  calc uncasedVerdict (g.judge p sql) = uncasedVerdict (g.judge p (uncased sql)) :=
        (judge_uncased g p sql).symm
    _ = uncasedVerdict (g.judge p (uncased sql')) := by rw [uncased, uncased, h]
    _ = uncasedVerdict (g.judge p sql') := judge_uncased g p sql'

/-- A table whose name ends in a capital sigma is refused by the same name in both spellings. -/
theorem judge_ignores_case_sigma :
    "select * From aΣ".toList.map lowerAscii = "SELECT * FROM AΣ".toList.map lowerAscii ∧
      Gate.judge {} .standard "SELECT * FROM AΣ".toList =
        .rejected (.tableDenied "aς".toList) := by
  have hcase : "select * From aΣ".toList.map lowerAscii =
      "SELECT * FROM AΣ".toList.map lowerAscii := by decide
  have hr : Gate.judge {} .standard "select * From aΣ".toList =
      .rejected (.tableDenied "aς".toList) := by decide +kernel
  refine ⟨hcase, ?_⟩
  rcases judge_ignores_case {} .standard hcase with ⟨reason, h, h'⟩ | ⟨q, q', h, -⟩
  · rw [h', ← h, hr]
  · rw [hr] at h
    exact absurd h (by simp)

end QueryGate.Gate
