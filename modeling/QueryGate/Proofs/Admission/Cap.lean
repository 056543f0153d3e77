import QueryGate.Proofs.Admission.Rewriting
import QueryGate.Proofs.Text.Nesting

/-!
# Where the row limit stands

Admission looks for a limit at whatever level of parentheses, and appends one only if it finds none.
So the row limit bounds the rows of the whole statement unless the statement came with a limit in
parentheses only.

* `OuterLimit s`: a limit stands outside all parentheses.

Headline: **`accepted_outerLimit_iff`**: an admitted `SELECT` has an outer limit iff it was
submitted with one or without any. `inner_limit_lifts_cap` is a statement that gets none.
-/

namespace QueryGate.Sql

open Text

/-! ## Outer limits -/

theorem Front.flat {front rest : Sql} (h : Front front rest) : Flat front :=
  ⟨h.not_mem (by decide) (by decide),
    h.not_mem (by decide) (by decide)⟩

/-- A limit stands outside all parentheses. -/
def OuterLimit (s : Sql) : Prop := ∃ before, LimitAt s before ∧ nesting 0 before = some 0

theorem outerLimit_iff_cut {s : Sql} : OuterLimit s ↔ ∃ n < s.length,
    beginsWord (s.take n) = true ∧ Sql.startsLimit (s.drop n) = true ∧
      nesting 0 (s.take n) = some 0 := by
  constructor
  · rintro ⟨before, ⟨hb, w, gap, d, after, rfl, hrest⟩, hn⟩
    refine ⟨before.length, ?_, ?_⟩
    · simp only [List.length_append, List.length_cons]
      omega
    rw [List.take_left' rfl, List.drop_left' rfl]
    exact ⟨hb, startsLimit_iff.mpr ⟨w, gap, d, after, rfl, hrest⟩, hn⟩
  · rintro ⟨n, -, hb, hs, hn⟩
    obtain ⟨w, gap, d, after, hcut, hrest⟩ := startsLimit_iff.mp hs
    exact ⟨s.take n, ⟨hb, w, gap, d, after, by rw [← hcut, List.take_append_drop], hrest⟩, hn⟩

instance (s : Sql) : Decidable (OuterLimit s) := decidable_of_iff _ outerLimit_iff_cut.symm

/-- Blanks at the end make no limit. -/
theorem limitAt_append_blank_iff {s trail before : Sql} (ht : AllBlank trail) :
    LimitAt (s ++ trail) before ↔ LimitAt s before := by
  constructor
  · rintro ⟨hb, w, gap, d, after, hs, hw, hne, hg, hd⟩
    have hblank := not_isBlank_of_isDigit hd
    rw [← List.append_assoc] at hs
    rcases List.append_eq_append_iff.mp hs with ⟨x, -, hx⟩ | ⟨y, hy, hafter⟩
    · -- the digit would stand among the blanks
      exact absurd (ht d (by rw [hx]; simp)) (by rw [hblank]; simp)
    · cases y with
      | nil =>
        exact absurd (ht d (by rw [← List.nil_append trail, ← hafter]; simp)) (by simp [hblank])
      | cons e y =>
        simp only [List.cons_append, List.cons.injEq] at hafter
        obtain ⟨rfl, -⟩ := hafter
        exact ⟨hb, w, gap, d, y, by rw [hy, List.append_assoc], hw, hne, hg, hd⟩
  · rintro ⟨hb, w, gap, d, after, hs, hrest⟩
    refine ⟨hb, w, gap, d, after ++ trail, ?_, hrest⟩
    rw [hs]
    simp only [List.append_assoc, List.cons_append]

/-- **A limit stands outside all parentheses iff it does so behind the front.** -/
theorem Front.outerLimit_iff {front rest : Sql} (h : Front front rest) :
    OuterLimit (front ++ rest) ↔ OuterLimit rest := by
  constructor
  · rintro ⟨before, hl, hn⟩
    obtain ⟨b, rfl, hb⟩ := h.limitAt_iff.mp hl
    exact ⟨b, hb, by rwa [nesting_flat_append h.flat] at hn⟩
  · rintro ⟨b, hb, hn⟩
    exact ⟨front ++ b, h.limitAt_iff.mpr ⟨b, rfl, hb⟩, by rwa [nesting_flat_append h.flat]⟩

theorem Front.limitIn_iff {front rest : Sql} (h : Front front rest) :
    LimitIn (front ++ rest) ↔ LimitIn rest := by
  constructor
  · rintro ⟨before, hl⟩
    obtain ⟨b, -, hb⟩ := h.limitAt_iff.mp hl
    exact ⟨b, hb⟩
  · rintro ⟨b, hb⟩
    exact ⟨front ++ b, h.limitAt_iff.mpr ⟨b, rfl, hb⟩⟩

section Layers

variable {heads : List (Sql × Sql)} {s sql c : Sql}

theorem Layers.outerLimit_iff (h : Layers heads s c) : OuterLimit s ↔ OuterLimit c := by
  rw [h.text]
  exact h.front_core.outerLimit_iff

theorem Layers.outerLimit_trim_iff (h : Layers heads (trim sql) c) :
    OuterLimit sql ↔ OuterLimit c := by
  obtain ⟨front, trail, hs, hf, ht⟩ := h.front_of_trim
  rw [hs, hf.outerLimit_iff]
  unfold OuterLimit
  simp only [limitAt_append_blank_iff ht]

theorem Layers.limitIn_trim_iff (h : Layers heads (trim sql) c) : LimitIn sql ↔ LimitIn c := by
  obtain ⟨front, trail, hs, hf, ht⟩ := h.front_of_trim
  rw [hs, hf.limitIn_iff]
  unfold LimitIn
  simp only [limitAt_append_blank_iff ht]

theorem Layers.nesting_trim (h : Layers heads (trim sql) c) : nesting 0 sql = nesting 0 c := by
  obtain ⟨front, trail, hs, hf, ht⟩ := h.front_of_trim
  rw [hs, nesting_flat_append hf.flat, nesting_append_flat (flat_of_allBlank ht)]

end Layers

theorem nesting_stem (s : Sql) : nesting 0 (stem s) = nesting 0 s := by
  obtain ⟨rest, hs, hrest⟩ := stem_split s
  have hflat : Flat rest := by
    refine ⟨fun hm => ?_, fun hm => ?_⟩
    · exact (hrest _ hm).elim (fun h => absurd h (by decide)) fun h => absurd h (by decide)
    · exact (hrest _ hm).elim (fun h => absurd h (by decide)) fun h => absurd h (by decide)
  have hstem := nesting_append_flat hflat 0 (stem s)
  rw [← hs] at hstem
  exact hstem.symm

end QueryGate.Sql

namespace QueryGate.Gate

open Text Sql

variable {g : Gate} {p : Privilege} {sql c q : Sql} {heads : List (Sql × Sql)}

/-- A limit clause behind a text is a limit outside what parentheses the text closes. -/
theorem outerLimit_limitClause {s : Sql} (hs : nesting 0 s = some 0) :
    OuterLimit (s ++ g.limitClause) := by
  have hspace : AllBlank [' '] := by decide
  refine ⟨s ++ [' '], g.limitAt_limitClause s, ?_⟩
  rw [nesting_append_flat (flat_of_allBlank hspace), hs]

/-- **The row limit bounds the whole statement, unless the statement came with a limit in
parentheses only.** An admitted `SELECT` with balanced parentheses has a limit outside all of them
iff it was submitted with such a limit or with no limit at all. -/
theorem accepted_outerLimit_iff (hq : g.judge p sql = .accepted q) (hb : nesting 0 sql = some 0)
    (hl : Layers heads (trim sql) c) (hc : BeginsWith selectWord c) :
    OuterLimit q ↔ (LimitIn sql → OuterLimit sql) := by
  obtain ⟨heads', c', ha, rfl⟩ := judge_eq_accepted_iff.mp hq
  obtain ⟨rfl, rfl⟩ := hl.unique ha.layers
  have hsend := sendable_withLimit g ha.sendable
  have hheads := fun kw hkw => (hl.spells_of_mem kw hkw).1
  rw [(layers_respaced hheads hsend.starts hsend.plain).outerLimit_iff, hl.outerLimit_trim_iff,
    hl.limitIn_trim_iff]
  by_cases hlimit : LimitIn c
  · have heq : g.withLimit c = c := (g.withLimit_cases c).resolve_right fun h => h.1 hlimit
    rw [heq]
    exact ⟨fun h _ => h, fun h => h hlimit⟩
  · have hselect : c.startsSelect = true := by
      rw [startsSelect_eq ha.sendable.starts]
      exact startsWord_iff.mpr hc
    have heq : g.withLimit c = stem c ++ g.limitClause := by
      unfold withLimit
      rw [if_neg (mt hasLimit_iff.mp hlimit), if_pos hselect]
      rfl
    rw [heq]
    refine ⟨fun _ h => absurd h hlimit, fun _ => outerLimit_limitClause ?_⟩
    rw [nesting_stem, ← hl.nesting_trim, hb]

/-- A standard caller's statement of that kind. -/
theorem accepted_outerLimit_iff_sample :
    Gate.judge {} .standard "SELECT (1) FROM sample_orders;".toList =
        .accepted "SELECT (1) FROM sample_orders LIMIT 1000".toList ∧
      OuterLimit "SELECT (1) FROM sample_orders LIMIT 1000".toList := by
  have hq : Gate.judge {} .standard "SELECT (1) FROM sample_orders;".toList =
      .accepted "SELECT (1) FROM sample_orders LIMIT 1000".toList := by decide +kernel
  have hl : Layers [] (trim "SELECT (1) FROM sample_orders;".toList)
      "SELECT (1) FROM sample_orders;".toList := .core (by decide) (by decide)
  have hc : BeginsWith selectWord "SELECT (1) FROM sample_orders;".toList :=
    ⟨"SELECT".toList, " (1) FROM sample_orders;".toList, by decide, by decide, by decide⟩
  have hnone : ¬ LimitIn "SELECT (1) FROM sample_orders;".toList :=
    mt hasLimit_iff.mpr (by decide +kernel)
  exact ⟨hq, (accepted_outerLimit_iff hq (by decide) hl hc).mpr fun h => absurd h hnone⟩

/-- A `SELECT` with a limit in a derived table only. -/
def innerLimited : Sql := "SELECT * FROM (SELECT * FROM sample_customers LIMIT 5) t".toList

/-- **A limit in a derived table lifts the row limit** from the statement around it. -/
theorem inner_limit_lifts_cap :
    Gate.judge {} .standard innerLimited = .accepted innerLimited ∧
      nesting 0 innerLimited = some 0 ∧ Uncommented innerLimited ∧ Unquoted innerLimited ∧
      '\x60' ∉ innerLimited ∧ BeginsWith selectWord innerLimited ∧ ¬ OuterLimit innerLimited := by
  have haccepted : Gate.judge {} .standard innerLimited = .accepted innerLimited := by
    decide +kernel
  have hbalanced : nesting 0 innerLimited = some 0 := by decide
  have huncommented : Uncommented innerLimited := by decide
  have hunquoted : Unquoted innerLimited := by decide
  have hbacktick : '\x60' ∉ innerLimited := by decide
  have hselect : BeginsWith selectWord innerLimited :=
    ⟨"SELECT".toList, " * FROM (SELECT * FROM sample_customers LIMIT 5) t".toList, by decide,
      by decide, by decide⟩
  have hcap : ¬ OuterLimit innerLimited := by decide +kernel
  exact ⟨haccepted, hbalanced, huncommented, hunquoted, hbacktick, hselect, hcap⟩

end QueryGate.Gate
