import QueryGate.Proofs.Admission.Verdict

/-!
# What admission makes of a statement

An admitted statement is not passed on as it was checked: one space is put behind each `EXPLAIN`,
and a core that is a `SELECT` without a limit loses its final semicolon and gets a limit clause. No
rewriting makes a second statement, a forbidden command or a further `EXPLAIN`.

* `stem`: what stays of a core before an appended limit.
* `Sendable c`: what the checks have found out of a core.

Results:
* `sendable_withLimit`: a core that gets a limit stays sendable.
* `startsWord_select_withLimit`: it is a `SELECT` afterwards iff it was one before.
* `layers_respaced`: the rewritten text has the `EXPLAIN`s of the submitted one, one space behind
  each, and its core.
* `judge_behind`: one more `EXPLAIN` in front changes nothing of the verdict.
-/

namespace QueryGate.Sql

open Text

/-! ## The stem of a core -/

/-- Only a semicolon with nothing but blanks behind it is dropped. -/
theorem dropFinalSemicolon_split (s : Sql) : ∃ rest, s = s.dropFinalSemicolon ++ rest ∧
    (rest = [] ∨ ∃ gap, rest = ';' :: gap ∧ AllBlank gap) := by
  induction s with
  | nil => exact ⟨[], rfl, Or.inl rfl⟩
  | cons c s ih =>
    rw [dropFinalSemicolon]
    split
    · rename_i h
      rw [Bool.and_eq_true, beq_iff_eq, List.all_eq_true] at h
      exact ⟨c :: s, rfl, Or.inr ⟨s, by rw [h.1], h.2⟩⟩
    · obtain ⟨rest, hs, hrest⟩ := ih
      exact ⟨rest, congrArg (c :: ·) hs, hrest⟩

/-- A text of one statement keeps no semicolon. -/
theorem not_mem_dropFinalSemicolon {s : Sql} (h : ¬ SecondStatement s) :
    ';' ∉ s.dropFinalSemicolon := by
  induction s with
  | nil => exact List.not_mem_nil
  | cons c s ih =>
    have hs : ¬ SecondStatement s := fun ⟨before, gap, d, after, hcut, hrest⟩ =>
      h ⟨c :: before, gap, d, after, by rw [hcut]; rfl, hrest⟩
    rw [dropFinalSemicolon]
    split
    · exact List.not_mem_nil
    · rename_i hc
      rw [List.mem_cons, not_or]
      refine ⟨?_, ih hs⟩
      rintro rfl
      have hmore : s.any (!isBlank ·) = true := by
        rw [beq_self_eq_true, Bool.true_and, Bool.not_eq_true, List.all_eq_false] at hc
        obtain ⟨d, hd, hb⟩ := hc
        exact List.any_eq_true.mpr ⟨d, hd, by simpa using hb⟩
      obtain ⟨gap, d, after, rfl, hrest⟩ := any_not_isBlank_iff.mp hmore
      exact h ⟨[], gap, d, after, rfl, hrest⟩

/-- What stays of a core before an appended limit. -/
def stem (s : Sql) : Sql := trimEnd s.dropFinalSemicolon

/-- Behind the stem only blanks and semicolons are taken off. -/
theorem stem_split (s : Sql) :
    ∃ rest, s = stem s ++ rest ∧ ∀ c ∈ rest, isBlank c = true ∨ c = ';' := by
  obtain ⟨rest, hs, hrest⟩ := dropFinalSemicolon_split s
  obtain ⟨trail, htrail, ht⟩ := trimEnd_split s.dropFinalSemicolon
  refine ⟨trail ++ rest, ?_, ?_⟩
  · rw [← List.append_assoc, stem, ← ht]
    exact hs
  · intro c hc
    rcases List.mem_append.mp hc with hc | hc
    · exact Or.inl (htrail c hc)
    · rcases hrest with rfl | ⟨gap, rfl, hgap⟩
      · exact absurd hc List.not_mem_nil
      · rcases List.mem_cons.mp hc with rfl | hc
        · exact Or.inr rfl
        · exact Or.inl (hgap c hc)

theorem not_isWord_of_stem_rest {rest : Sql} (h : ∀ c ∈ rest, isBlank c = true ∨ c = ';') :
    ∀ c ∈ rest, isWord c = false := by
  intro c hc
  rcases h c hc with hb | rfl
  · exact isWord_of_isBlank hb
  · decide

/-- The first word of a text is the first word of its stem. -/
theorem startsWord_stem_iff {k : Keyword} (hk : Proper k) {s clause : Sql}
    (hc : endsWord clause = true) :
    startsWord k (stem s ++ clause) = true ↔ startsWord k s = true := by
  obtain ⟨rest, hs, hrest⟩ := stem_split s
  have hword := not_isWord_of_stem_rest hrest
  -- a word at the start of `stem s ++ tail` ends within the stem, since `tail` begins with no word
  have hgo : ∀ tail tail' : Sql, endsWord tail = true → endsWord tail' = true →
      startsWord k (stem s ++ tail) = true → startsWord k (stem s ++ tail') = true := by
    intro tail tail' ht ht' h
    obtain ⟨w, after, hcut, hw, he⟩ := startsWord_iff.mp h
    rcases List.append_eq_append_iff.mp hcut with ⟨x, rfl, hx⟩ | ⟨y, hy, hafter⟩
    · by_cases hn : x = []
      · rw [hn, List.append_nil] at hw
        exact startsWord_iff.mpr ⟨stem s, tail', rfl, hw, ht'⟩
      · obtain ⟨c, x, rfl⟩ := List.exists_cons_of_ne_nil hn
        rw [hx, List.cons_append, endsWord, hw.isWord hk c (by simp)] at ht
        exact absurd ht Bool.false_ne_true
    · exact startsWord_iff.mpr ⟨w, y ++ tail', by rw [hy, List.append_assoc], hw,
        endsWord_both (endsWord_left (hafter ▸ he)) ht'⟩
  have hends : endsWord rest = true := endsWord_iff.mpr fun c hc => hword c (List.mem_of_head? hc)
  constructor
  · intro h
    rw [hs]
    exact hgo clause rest hc hends h
  · intro h
    rw [hs] at h
    exact hgo rest clause hends hc h

/-! ## Semicolons in front -/

theorem secondStatement_append_iff {a b : Sql} (ha : ';' ∉ a) :
    SecondStatement (a ++ b) ↔ SecondStatement b := by
  constructor
  · rintro ⟨before, gap, c, after, hs, hrest⟩
    rcases List.append_eq_append_iff.mp hs with ⟨x, rfl, hb⟩ | ⟨y, rfl, hy⟩
    · exact ⟨x, gap, c, after, hb, hrest⟩
    · cases y with
      | nil => exact ⟨[], gap, c, after, by simpa using hy.symm, hrest⟩
      | cons d y =>
        simp only [List.cons_append, List.cons.injEq] at hy
        exact absurd (by rw [← hy.1]; simp) ha
  · rintro ⟨before, gap, c, after, rfl, hrest⟩
    exact ⟨a ++ before, gap, c, after, (List.append_assoc ..).symm, hrest⟩

theorem not_secondStatement_of_not_mem {s : Sql} (h : ';' ∉ s) : ¬ SecondStatement s := by
  rintro ⟨before, gap, c, after, rfl, -⟩
  exact h (by simp)

/-- A text has a second statement iff its core has one. -/
theorem Layers.secondStatement_iff {heads : List (Sql × Sql)} {s c : Sql} (h : Layers heads s c) :
    SecondStatement s ↔ SecondStatement c := by
  rw [h.text]
  exact secondStatement_append_iff
    (h.front_core.not_mem (by decide) (by decide))

/-- A text has a forbidden command iff its core has one. -/
theorem Layers.forbidden_iff {heads : List (Sql × Sql)} {s c : Sql} (h : Layers heads s c) :
    Forbidden s ↔ Forbidden c := by
  rw [h.text]
  exact h.front_core.forbidden_iff

/-- What the checks have found out of a core. -/
structure Sendable (c : Sql) : Prop where
  ne_nil : c ≠ []
  starts : startsBlank c = false
  plain : startsWord explainWord c = false
  single : ¬ SecondStatement c
  permitted : ¬ Forbidden c

end QueryGate.Sql

namespace QueryGate.Gate

open Text Sql

variable {g : Gate} {p : Privilege} {sql c q : Sql} {heads : List (Sql × Sql)}

theorem Admitted.sendable (h : Admitted g p sql heads c) : Sendable c where
  ne_nil := h.ne_nil
  starts := h.layers.startsBlank_core
  plain := h.layers.plain_core
  single := mt h.layers.secondStatement_iff.mpr h.single
  permitted := mt h.layers.forbidden_iff.mpr h.permitted

/-! ## The limit clause -/

theorem limitClause_eq (g : Gate) :
    g.limitClause = [' '] ++ ("LIMIT".toList ++ [' '] ++ Nat.toDigits 10 g.maxRows) := rfl

theorem toNat_of_mem_toDigits {n : Nat} {c : Char} (h : c ∈ Nat.toDigits 10 n) :
    48 ≤ c.toNat ∧ c.toNat ≤ 57 := by
  have hd := Nat.isDigit_of_mem_toDigits (by decide) (by decide) h
  simp only [Char.isDigit, Bool.and_eq_true, decide_eq_true_eq] at hd
  exact ⟨UInt32.le_iff_toNat_le.mp hd.1, UInt32.le_iff_toNat_le.mp hd.2⟩

theorem isWord_of_mem_toDigits {n : Nat} {c : Char} (h : c ∈ Nat.toDigits 10 n) :
    isWord c = true := by
  have hall : ∀ m < 58, 48 ≤ m → wordRanges.contains m = true := by decide
  obtain ⟨hlo, hhi⟩ := toNat_of_mem_toDigits h
  exact hall _ (by omega) hlo

/-- **The only keyword of the limit clause is `LIMIT`.** -/
theorem eq_limitWord_of_wholeWord {k : Keyword} (hk : Proper k) {n : Nat} {before w after : Sql}
    (h : WholeWord ("LIMIT".toList ++ [' '] ++ Nat.toDigits 10 n) before w after)
    (hw : Spells k w) : k = limitWord := by
  rcases h.of_append (by decide) (by simp) with ⟨y, -, hy⟩ | ⟨z, -, hz⟩
  · have heq := hy.eq_of_chars (by decide)
    rw [← hw, heq]
    decide
  · have heq := hz.eq_of_chars fun c hc => isWord_of_mem_toDigits hc
    obtain ⟨c, w', hcons⟩ := List.exists_cons_of_ne_nil h.ne_nil
    obtain ⟨hlo, hhi⟩ := toNat_of_mem_toDigits (c := c) (n := n)
      (by rw [← heq, hcons]; exact List.mem_cons_self)
    have hletter := hk.2 (foldLetter c) (by rw [← hw, hcons]; simp)
    rcases foldLetter_cases c with hu | rfl | rfl | he
    · omega
    · exact absurd hhi (by decide)
    · exact absurd hhi (by decide)
    · rw [he] at hletter
      omega

/-- **The limit clause makes no forbidden command.** -/
theorem forbidden_of_limitClause {s : Sql} (h : Forbidden (s ++ g.limitClause)) : Forbidden s := by
  have hlast : ∀ command ∈ forbiddenCommands, command.getLast? ≠ some limitWord := by decide
  obtain ⟨command, hmem, hin⟩ := h
  have hproper := proper_of_mem_forbidden command hmem
  rw [limitClause_eq, ← List.append_assoc] at hin
  refine ⟨command, hmem, hin.of_append hproper (by decide) (by simp) ?_⟩
  intro before w after hword hw
  apply hlast command hmem
  rw [List.getLast?_eq_some_getLast hproper.1]
  exact congrArg some
    (eq_limitWord_of_wholeWord (hproper.2 _ (List.getLast_mem hproper.1)) hword hw)

theorem not_mem_limitClause (g : Gate) : ';' ∉ g.limitClause := by
  rw [limitClause_eq, List.mem_append, List.mem_append, not_or, not_or]
  refine ⟨by decide, by decide, fun h => ?_⟩
  exact absurd (toNat_of_mem_toDigits h).2 (by decide)

/-- The limit clause is a limit behind any text. -/
theorem limitAt_limitClause (g : Gate) (s : Sql) : LimitAt (s ++ g.limitClause) (s ++ [' ']) := by
  obtain ⟨d, ds, hd⟩ := List.exists_cons_of_ne_nil (Nat.toDigits_ne_nil (n := g.maxRows) (b := 10))
  have hdigit : isDigit d = true := by
    have hall : ∀ m < 58, 48 ≤ m → digitRanges.contains m = true := by decide
    obtain ⟨hlo, hhi⟩ := toNat_of_mem_toDigits (c := d) (n := g.maxRows) (by rw [hd]; simp)
    exact hall _ (by omega) hlo
  have hspace : AllBlank [' '] := by decide
  refine ⟨beginsWord_of_gap s hspace (by simp),
    "LIMIT".toList, [' '], d, ds, ?_, by decide, by simp, hspace, hdigit⟩
  rw [limitClause_eq, hd]
  simp only [List.append_assoc]

/-! ## A core with a limit -/

theorem withLimit_cases (g : Gate) (c : Sql) :
    g.withLimit c = c ∨
      ¬ LimitIn c ∧ c.startsSelect = true ∧ g.withLimit c = stem c ++ g.limitClause := by
  unfold withLimit
  split
  · exact Or.inl rfl
  · rename_i hlimit
    split
    · rename_i hselect
      exact Or.inr ⟨mt hasLimit_iff.mpr hlimit, hselect, rfl⟩
    · exact Or.inl rfl

theorem endsWord_limitClause (g : Gate) : endsWord g.limitClause = true := by
  rw [limitClause_eq]
  exact endsWord_of_gap (by decide) (by simp) _

/-- **A core is a `SELECT` with its limit iff it was one without.** -/
theorem startsWord_select_withLimit (g : Gate) (c : Sql) :
    startsWord selectWord (g.withLimit c) = startsWord selectWord c := by
  rcases g.withLimit_cases c with h | ⟨-, -, h⟩
  · rw [h]
  · rw [h, Bool.eq_iff_iff]
    exact startsWord_stem_iff proper_selectWord g.endsWord_limitClause

/-- **A sendable core stays sendable** when it gets a limit. -/
theorem sendable_withLimit (g : Gate) (h : Sendable c) : Sendable (g.withLimit c) := by
  rcases g.withLimit_cases c with heq | ⟨-, hselect, heq⟩
  · rwa [heq]
  · rw [startsSelect_eq h.starts] at hselect
    have hselect' := (g.startsWord_select_withLimit c).trans hselect
    obtain ⟨w, after, hw, hspells, -⟩ := startsWord_iff.mp hselect'
    obtain ⟨t, ht⟩ := Option.isSome_iff_exists.mp hselect'
    obtain ⟨rest, hs, hrest⟩ := stem_split c
    have hends : endsWord rest = true :=
      endsWord_iff.mpr fun d hd => not_isWord_of_stem_rest hrest d (List.mem_of_head? hd)
    refine ⟨?_, ?_, not_explain_of_stripWord? proper_selectWord (by decide) ht, ?_, ?_⟩
    · rw [hw]
      simp [hspells.ne_nil proper_selectWord]
    · rw [hw]
      exact hspells.startsBlank proper_selectWord after
    · -- the stem of one statement has no semicolon, and the clause has none either
      rw [heq]
      refine not_secondStatement_of_not_mem fun hm => ?_
      rcases List.mem_append.mp hm with hm | hm
      · obtain ⟨trail, -, htrail⟩ := trimEnd_split c.dropFinalSemicolon
        refine not_mem_dropFinalSemicolon h.single ?_
        rw [htrail]
        exact List.mem_append_left _ hm
      · exact g.not_mem_limitClause hm
    · rw [heq]
      intro hf
      obtain ⟨command, hmem, hin⟩ := forbidden_of_limitClause hf
      apply h.permitted
      rw [hs]
      exact ⟨command, hmem, hin.append hends⟩

/-! ## The rewritten text -/

/-- The `EXPLAIN`s with one space behind each. -/
def spaced (heads : List (Sql × Sql)) : List (Sql × Sql) := heads.map fun kw => (kw.1, [' '])

/-- **The rewritten text has the same `EXPLAIN`s**, and its core is the core with its limit. -/
theorem layers_respaced (hheads : ∀ kw ∈ heads, Spells explainWord kw.1)
    (hb : startsBlank c = false) (hx : startsWord explainWord c = false) :
    Layers (spaced heads) (respaced heads c) c := by
  induction heads with
  | nil => exact .core hb hx
  | cons kw heads ih =>
    obtain ⟨hk, hheads⟩ := List.forall_mem_cons.mp hheads
    have hin := ih hheads
    have hspace : AllBlank [' '] := by decide
    rw [respaced, List.append_cons]
    exact .explain hk hspace hin.startsBlank (endsWord_of_gap hspace (by simp) _) hin

/-! ## Behind one more EXPLAIN -/

theorem layers_behind {k gap : Sql} (hk : Spells explainWord k) (hg : AllBlank gap)
    (hne : gap ≠ []) (h : Layers heads (trim sql) c) :
    ∃ w, Layers ((k, w) :: heads) (trim (k ++ gap ++ sql)) c := by
  obtain ⟨lead, trail, hl, ht, hsql⟩ := trim_split sql
  have hgap : AllBlank (gap ++ lead) := fun c hc => (List.mem_append.mp hc).elim (hg c) (hl c)
  have hstart : ∀ after, startsBlank (k ++ after) = false := hk.startsBlank proper_explainWord
  by_cases hn : trim sql = []
  · -- all that follows the keyword is blank and trimmed
    rw [hn, List.append_nil] at hsql
    have htrail : AllBlank (gap ++ lead ++ trail) :=
      fun c hc => (List.mem_append.mp hc).elim (hgap c) (ht c)
    have hcut : k ++ gap ++ sql = [] ++ k ++ (gap ++ lead ++ trail) := by
      rw [hsql]; simp only [List.append_assoc, List.nil_append]
    have hk' : startsBlank k = false := List.append_nil k ▸ hstart []
    have htrim : trim (k ++ gap ++ sql) = k ++ [] ++ trim sql := by
      rw [hn, List.append_nil, List.append_nil, hcut]
      exact trim_eq_of_split allBlank_nil htrail hk' (hk.endsBlank proper_explainWord)
    rw [htrim]
    exact ⟨[], .explain hk allBlank_nil (startsBlank_trim sql) (by rw [hn]; rfl) h⟩
  · have hcut : k ++ gap ++ sql = [] ++ (k ++ (gap ++ lead) ++ trim sql) ++ trail :=
      (congrArg (k ++ gap ++ ·) hsql).trans (by simp only [List.append_assoc, List.nil_append])
    have htrim : trim (k ++ gap ++ sql) = k ++ (gap ++ lead) ++ trim sql := by
      rw [hcut]
      refine trim_eq_of_split allBlank_nil ht (by rw [List.append_assoc]; exact hstart _) ?_
      rw [endsBlank_append hn]
      exact endsBlank_trim sql
    rw [htrim]
    exact ⟨_, .explain hk hgap (startsBlank_trim sql) (endsWord_of_gap hgap (by simp [hne]) _) h⟩

/-- **An `EXPLAIN` in front changes nothing of a verdict** but that it stands before the text that
is accepted. -/
theorem judge_behind (g : Gate) (p : Privilege) {k gap : Sql} (hk : Spells explainWord k)
    (hg : AllBlank gap) (hne : gap ≠ []) (sql : Sql) :
    g.judge p (k ++ gap ++ sql) = explained k (g.judge p sql) := by
  obtain ⟨heads, c, hl⟩ := Layers.exists_of_startsBlank (trim sql) (startsBlank_trim sql)
  obtain ⟨w, hl'⟩ := layers_behind hk hg hne hl
  have hsecond : Sql.hasSecondStatement (trim (k ++ gap ++ sql)) =
      Sql.hasSecondStatement (trim sql) := by
    rw [Bool.eq_iff_iff, hasSecondStatement_iff, hasSecondStatement_iff,
      hl'.secondStatement_iff, hl.secondStatement_iff]
  have hforbidden : Sql.hasForbidden (trim (k ++ gap ++ sql)) = Sql.hasForbidden (trim sql) := by
    rw [Bool.eq_iff_iff, hasForbidden_iff, hasForbidden_iff, hl'.forbidden_iff, hl.forbidden_iff]
  rw [judge_eq g p hl', judge_eq g p hl, hsecond, hforbidden, reheaded_cons]
  split_ifs <;> rfl

end QueryGate.Gate
