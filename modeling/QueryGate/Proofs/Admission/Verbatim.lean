import QueryGate.Proofs.Admission.Rewriting

/-!
# An admitted statement is the submitted one

Between the check of a statement and its execution nothing of it is lost, doubled or altered: what
is executed is the submitted text with other blanks between its `EXPLAIN`s, and with a limit in the
place of a final semicolon where it is a `SELECT` without one.

* `Capped g c c'`: `c'` is what stands for the core `c` in the text that is admitted.
* `inked s`: the characters of `s` that are no blanks, in their order.

Results:
* `capped_withLimit`: what the gate makes of a core, as one of three cases.
* `Capped.inked_split`: a core loses a semicolon at its end and gets the limit at its end, if
  anything.

Headline: **`accepted_verbatim`**.
-/

namespace QueryGate.Sql

open Text

/-! ## Characters that are no blanks -/

/-- The characters of a text that are no blanks. -/
def inked (s : Sql) : Sql := s.filter (!isBlank ·)

@[simp] theorem inked_append (a b : Sql) : inked (a ++ b) = inked a ++ inked b :=
  List.filter_append ..

theorem inked_of_allBlank {s : Sql} (h : AllBlank s) : inked s = [] := by
  rw [inked, List.filter_eq_nil_iff]
  intro c hc
  rw [h c hc]
  exact Bool.false_ne_true

theorem inked_of_isWord {s : Sql} (h : ∀ c ∈ s, isWord c = true) : inked s = s := by
  rw [inked, List.filter_eq_self]
  intro c hc
  rw [not_isBlank_of_isWord (h c hc)]
  rfl

/-- Trimming takes off blanks only. -/
theorem inked_trim (s : Sql) : inked (trim s) = inked s := by
  obtain ⟨lead, trail, hl, ht, hs⟩ := trim_split s
  calc inked (trim s) = inked (lead ++ trim s ++ trail) := by
        rw [inked_append, inked_append, inked_of_allBlank hl, inked_of_allBlank ht, List.nil_append,
          List.append_nil]
    _ = inked s := by rw [← hs]

theorem eq_nil_of_endsBlank {a gap : Sql} (hg : AllBlank gap) (h : endsBlank (a ++ gap) = false) :
    gap = [] := by
  by_contra hne
  obtain ⟨init, c, rfl⟩ := (List.eq_nil_or_concat gap).resolve_left hne
  have hc : endsBlank [c] = false := by
    rwa [List.concat_eq_append, ← List.append_assoc, endsBlank_append (by simp)] at h
  rw [show endsBlank [c] = true from hg c (by simp)] at hc
  exact absurd hc (by simp)

end QueryGate.Sql

namespace QueryGate.Gate

open Text Sql

variable {g : Gate} {p : Privilege} {sql c c' q : Sql} {heads : List (Sql × Sql)}

/-! ## What stands for a core -/

/-- What stands for a core in the text that is admitted. -/
inductive Capped (g : Gate) (c : Sql) : Sql → Prop
  /-- A core that is no `SELECT`, or has a limit, stays as it is. -/
  | kept (kept : BeginsWith selectWord c → LimitIn c) : Capped g c c
  /-- A `SELECT` without a limit gets one. -/
  | appended (select : BeginsWith selectWord c) (unlimited : ¬ LimitIn c)
      (unended : c.getLast? ≠ some ';') : Capped g c (c ++ g.limitClause)
  /-- A final semicolon and the blanks before it make room for the limit. -/
  | replaced {body gap : Sql} (select : BeginsWith selectWord c) (unlimited : ¬ LimitIn c)
      (ended : c = body ++ gap ++ [';']) (blank : AllBlank gap) (whole : endsBlank body = false) :
      Capped g c (body ++ g.limitClause)

/-- What stays of a core before a limit is the core itself, or the core without a semicolon at its
end and the blanks before that. -/
theorem stem_cases (hsingle : ¬ SecondStatement c) (hend : endsBlank c = false) :
    (stem c = c ∧ c.getLast? ≠ some ';') ∨
      ∃ gap, c = stem c ++ gap ++ [';'] ∧ AllBlank gap := by
  obtain ⟨rest, hc, hrest⟩ := dropFinalSemicolon_split c
  rcases hrest with rfl | ⟨gap, rfl, hgap⟩
  · rw [List.append_nil] at hc
    have hstem : stem c = c := by rw [stem, ← hc, trimEnd_of_endsBlank hend]
    refine Or.inl ⟨hstem, fun hlast => not_mem_dropFinalSemicolon hsingle ?_⟩
    rw [← hc]
    exact List.mem_of_getLast? hlast
  · -- the core ends in no blank, so the semicolon is its last character
    have hnil : gap = [] := by
      rw [hc, List.append_cons] at hend
      exact eq_nil_of_endsBlank hgap hend
    obtain ⟨trail, ht, hbody⟩ := trimEnd_split c.dropFinalSemicolon
    refine Or.inr ⟨trail, ?_, ht⟩
    rw [stem, ← hbody, ← hnil]
    exact hc

/-- **What the gate makes of a core** of one statement. -/
theorem capped_withLimit (g : Gate) (h : Sendable c) (hend : endsBlank c = false) :
    Capped g c (g.withLimit c) := by
  have hselect : c.startsSelect = true ↔ BeginsWith selectWord c := by
    rw [startsSelect_eq h.starts, startsWord_iff]
  by_cases hkeep : BeginsWith selectWord c → LimitIn c
  · have heq : g.withLimit c = c :=
      (g.withLimit_cases c).resolve_right fun hcut => hcut.1 (hkeep (hselect.mp hcut.2.1))
    rw [heq]
    exact .kept hkeep
  · obtain ⟨hsel, hlim⟩ := Classical.not_imp.mp hkeep
    have heq : g.withLimit c = stem c ++ g.limitClause := by
      unfold withLimit
      rw [if_neg (mt hasLimit_iff.mp hlim), if_pos (hselect.mpr hsel)]
      rfl
    rw [heq]
    rcases stem_cases h.single hend with ⟨hstem, hlast⟩ | ⟨gap, hc, hgap⟩
    · rw [hstem]
      exact .appended hsel hlim hlast
    · exact .replaced hsel hlim hc hgap (endsBlank_trimEnd _)

theorem inked_limitClause (g : Gate) :
    inked g.limitClause = "LIMIT".toList ++ Nat.toDigits 10 g.maxRows := by
  have hspace : inked [' '] = [] := rfl
  rw [limitClause_eq, inked_append, inked_append, inked_append, hspace, List.nil_append,
    List.append_nil, inked_of_isWord fun _ hc => isWord_of_mem_toDigits hc]
  rfl

/-- **A core keeps its characters** up to a semicolon at its end, and gets those of the limit. -/
theorem Capped.inked_split (h : Capped g c c') : ∃ kept semicolon cap,
    inked c = kept ++ semicolon ∧ inked c' = kept ++ cap ∧
      (semicolon = [] ∨ semicolon = [';']) ∧
      (cap = [] ∨ cap = "LIMIT".toList ++ Nat.toDigits 10 g.maxRows) := by
  cases h with
  | kept => exact ⟨Sql.inked c, [], [], by simp, by simp, Or.inl rfl, Or.inl rfl⟩
  | appended =>
    refine ⟨Sql.inked c, [], _, by simp, inked_append .., Or.inl rfl, Or.inr ?_⟩
    exact inked_limitClause g
  | @replaced body gap _ _ ended blank _ =>
    refine ⟨Sql.inked body, [';'], _, ?_, inked_append .., Or.inr rfl, Or.inr ?_⟩
    · rw [ended, inked_append, inked_append, inked_of_allBlank blank, List.append_nil]
      rfl
    · exact inked_limitClause g

/-! ## Behind the EXPLAINs -/

/-- Between the `EXPLAIN`s and their core stand blanks only, before and after. -/
theorem inked_respaced (hheads : ∀ kw ∈ heads, AllBlank kw.2) (s : Sql) :
    inked (respaced heads s) = inked (headText heads) ++ inked s := by
  induction heads with
  | nil => rfl
  | cons kw heads ih =>
    obtain ⟨hw, hheads⟩ := List.forall_mem_cons.mp hheads
    have hspace : inked [' '] = [] := rfl
    rw [respaced, headText, List.append_cons, inked_append, inked_append, inked_append,
      inked_append, ih hheads, hspace, inked_of_allBlank hw, List.append_assoc, List.append_assoc,
      List.append_assoc]

/-- **An admitted statement is the submitted one.** The trimmed text is in only one way a core
behind `EXPLAIN`s; the text that is admitted has the same `EXPLAIN`s as they were written, one space
behind each, and the core, which gets the limit if it is a `SELECT` without one. So the characters
that are no blanks stay as they were, up to a semicolon at the end and the limit. -/
theorem accepted_verbatim (hq : g.judge p sql = .accepted q) :
    ∃ heads c c', Layers heads (trim sql) c ∧
      (∀ heads' d, Layers heads' (trim sql) d → heads' = heads ∧ d = c) ∧
      c ≠ [] ∧ Capped g c c' ∧ q = respaced heads c' ∧
      ∃ kept semicolon cap, inked sql = kept ++ semicolon ∧ inked q = kept ++ cap ∧
        (semicolon = [] ∨ semicolon = [';']) ∧
        (cap = [] ∨ cap = "LIMIT".toList ++ Nat.toDigits 10 g.maxRows) := by
  obtain ⟨heads, c, ha, rfl⟩ := judge_eq_accepted_iff.mp hq
  have hl := ha.layers
  have hend : endsBlank c = false := by
    have htrim := endsBlank_trim sql
    rwa [hl.text, endsBlank_append ha.ne_nil] at htrim
  have hcapped := capped_withLimit g ha.sendable hend
  obtain ⟨kept, semicolon, cap, hc, hc', hsemi, hcap⟩ := hcapped.inked_split
  refine ⟨heads, c, g.withLimit c, hl, fun _ _ h => h.unique hl, ha.ne_nil, hcapped, rfl,
    inked (headText heads) ++ kept, semicolon, cap, ?_, ?_, hsemi, hcap⟩
  · rw [← inked_trim, hl.text, inked_append, hc, List.append_assoc]
  · rw [inked_respaced fun kw hkw => (hl.spells_of_mem kw hkw).2, hc', List.append_assoc]

/-- Two `EXPLAIN`s, one of them behind a tab, before a `SELECT` with a semicolon. -/
theorem accepted_verbatim_explained :
    Gate.judge {} .standard " explain  EXPLAIN\tselect * from sample_orders ; ".toList =
        .accepted "explain EXPLAIN select * from sample_orders LIMIT 1000".toList ∧
      ∃ heads c c',
        Layers heads (trim " explain  EXPLAIN\tselect * from sample_orders ; ".toList) c ∧
          Capped {} c c' ∧
          "explain EXPLAIN select * from sample_orders LIMIT 1000".toList = respaced heads c' := by
  have hq : Gate.judge {} .standard " explain  EXPLAIN\tselect * from sample_orders ; ".toList =
      .accepted "explain EXPLAIN select * from sample_orders LIMIT 1000".toList := by
    decide +kernel
  obtain ⟨heads, c, c', hl, -, -, hc, hq', -⟩ := accepted_verbatim hq
  exact ⟨hq, heads, c, c', hl, hc, hq'⟩

end QueryGate.Gate
