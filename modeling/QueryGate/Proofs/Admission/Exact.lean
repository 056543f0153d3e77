import QueryGate.Proofs.Admission.Tables
import QueryGate.Proofs.Admission.Verdict

/-!
# Exactly which statements are admitted

The conditions here name no order of checks and no direction of search. All of them are about the
trimmed text and about its core, what is left of it behind the leading `EXPLAIN`s.

* (a) the core is not empty;
* (b) no semicolon has more behind it, and (c) no forbidden command stands in the text;
* (d) the core begins with the whole word `SELECT`;
* (e) every name at a place for a table is allow-listed, wherever two such places overlap too.

Headline: **`accepted_iff_everywhere`**: a standard caller's statement is accepted iff (a) to (e)
hold, an administrator's iff (a) to (c) do.
-/

namespace QueryGate.Gate

open Text Sql

/-- Every name behind a whole word `FROM` or `JOIN` is allow-listed, without its backticks and in
lower case. -/
def NamesAllowed (a : AllowList) (c : Sql) : Prop :=
  ∀ before w gap name after, TableRef c before w gap name after →
    a.contains (tableName name) = true

variable {g : Gate}

theorem accepted_admin_iff (sql : Sql) :
    (∃ q, g.judge .admin sql = .accepted q) ↔
      ∃ heads c, Layers heads (trim sql) c ∧ c ≠ [] ∧ ¬ SecondStatement (trim sql) ∧
        ¬ Forbidden (trim sql) := by
  simp only [judge_eq_accepted_iff]
  constructor
  · rintro ⟨_, heads, c, ha, -⟩
    exact ⟨heads, c, ha.layers, ha.ne_nil, ha.single, ha.permitted⟩
  · rintro ⟨heads, c, hl, hne, hsingle, hperm⟩
    exact ⟨_, heads, c, ⟨hl, hne, hsingle, hperm, fun h => absurd h (by simp),
      fun h => absurd h (by simp)⟩, rfl⟩

theorem accepted_standard_iff
    (hg : ∀ t ∈ g.allowed.tables, ¬ fromWord <:+ t ∧ ¬ joinWord <:+ t) (sql : Sql) :
    (∃ q, g.judge .standard sql = .accepted q) ↔
      ∃ heads c, Layers heads (trim sql) c ∧ c ≠ [] ∧ ¬ SecondStatement (trim sql) ∧
        ¬ Forbidden (trim sql) ∧ BeginsWith selectWord c ∧ NamesAllowed g.allowed c := by
  simp only [judge_eq_accepted_iff]
  constructor
  · rintro ⟨_, heads, c, ha, -⟩
    exact ⟨heads, c, ha.layers, ha.ne_nil, ha.single, ha.permitted,
      startsWord_iff.mp (ha.select rfl), (allowed_iff_everywhere hg c).mp (ha.tables rfl)⟩
  · rintro ⟨heads, c, hl, hne, hsingle, hperm, hselect, hnames⟩
    exact ⟨_, heads, c, ⟨hl, hne, hsingle, hperm, fun _ => startsWord_iff.mpr hselect,
      fun _ => (allowed_iff_everywhere hg c).mpr hnames⟩, rfl⟩

/-- **Exact admission.** Let no allow-listed name end in `from` or `join`. Then a standard caller's
statement is accepted iff it is one statement without forbidden commands whose core is a `SELECT`
that names allow-listed tables only, at whatever place. An administrator's is accepted iff it is one
statement without forbidden commands whose core is not empty. -/
theorem accepted_iff_everywhere
    (hg : ∀ t ∈ g.allowed.tables, ¬ fromWord <:+ t ∧ ¬ joinWord <:+ t) (sql : Sql) :
    ((∃ q, g.judge .standard sql = .accepted q) ↔
      ∃ heads c, Layers heads (trim sql) c ∧ c ≠ [] ∧ ¬ SecondStatement (trim sql) ∧
        ¬ Forbidden (trim sql) ∧ BeginsWith selectWord c ∧ NamesAllowed g.allowed c) ∧
    ((∃ q, g.judge .admin sql = .accepted q) ↔
      ∃ heads c, Layers heads (trim sql) c ∧ c ≠ [] ∧ ¬ SecondStatement (trim sql) ∧
        ¬ Forbidden (trim sql)) :=
  ⟨accepted_standard_iff hg sql, accepted_admin_iff sql⟩

/-- The sample tables satisfy the condition, and a table of another name is found behind `JOIN`. -/
theorem accepted_iff_everywhere_sample :
    (∀ t ∈ AllowList.sample.tables, ¬ fromWord <:+ t ∧ ¬ joinWord <:+ t) ∧
      ¬ ∃ q, Gate.judge {} .standard "Explain select * from sample_orders join users".toList =
        .accepted q := by
  have hg : ∀ t ∈ AllowList.sample.tables, ¬ fromWord <:+ t ∧ ¬ joinWord <:+ t := by decide +kernel
  refine ⟨hg, fun h => ?_⟩
  obtain ⟨heads, c, hl, -, -, -, -, hnames⟩ :=
    (accepted_iff_everywhere (g := {}) hg _).1.mp h
  have hlayers : Layers [("Explain".toList, " ".toList)]
      (trim "Explain select * from sample_orders join users".toList)
      "select * from sample_orders join users".toList :=
    .explain (by decide) (by decide) (by decide) (by decide) (.core (by decide) (by decide))
  obtain ⟨-, rfl⟩ := hl.unique hlayers
  have href : TableRef "select * from sample_orders join users".toList
      "select * from sample_orders ".toList "join".toList " ".toList "users".toList [] :=
    ⟨by decide, by decide, by decide, by decide, by decide,
      ⟨by decide, by decide, fun _ h => absurd h (by simp)⟩⟩
  exact absurd (hnames _ _ _ _ _ href) (by decide +kernel)

end QueryGate.Gate
