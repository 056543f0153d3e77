import QueryGate.Proofs.Admission.Rewriting
import QueryGate.Proofs.Admission.Tables

/-!
# Admitting a statement twice

What admission makes of a statement is a statement again, and its other rules find in it what they
found before. The scan for tables may not: the appended `LIMIT` stands behind the text that was
scanned, so where that text ends in the word `FROM` or `JOIN` a second scan reads `LIMIT` as the
name of a table.

* `OpenLead s`: the text ends in the whole word `FROM` or `JOIN`, which the scan does not read as
  part of a name.
* `tableNames_limitClause`: the limit clause adds the name `limit` behind an open lead, and no name
  anywhere else.

Headline: **`judge_again`**: a statement that was admitted is admitted again, as it is, unless it is
a standard caller's, ended in an open lead, got its limit from the gate, and `limit` is not
allow-listed. `open_lead_not_readmitted` is such a statement.
-/

namespace QueryGate.Sql

open Text

/-! ## The scan over a text and what stands behind it -/

section Scan

variable {pre s a b u w gap name rest n : Sql}

/-- Every name that the scan finds in `s` stands at a place of `s`, not of what is before it. -/
theorem exists_place_of_mem : ∀ (s pre : Sql), n ∈ namesBehind pre s →
    ∃ b w gap after, TableRef (pre ++ s) (pre ++ b) w gap n after := by
  intro s
  induction hlen : s.length using Nat.strong_induction_on generalizing s with
  | _ len ih =>
    intro pre hmem
    cases scanStep pre s with
    | stop =>
      unfold namesBehind at hmem
      rw [tableNamesFrom] at hmem
      exact absurd hmem List.not_mem_nil
    | @found _ w gap name rest href hlt hnames =>
      rw [hnames] at hmem
      rcases List.mem_cons.mp hmem with rfl | hmem
      · exact ⟨[], w, gap, rest, by rwa [List.append_nil]⟩
      · obtain ⟨b, w', gap', after, h⟩ := ih rest.length (by omega) rest rfl _ hmem
        refine ⟨w ++ gap ++ name ++ b, w', gap', after, ?_⟩
        rw [href.text]
        simpa only [List.append_assoc] using h
    | @pass c s' _ hnames =>
      rw [hnames] at hmem
      obtain ⟨b, w', gap', after, h⟩ := ih s'.length (by rw [← hlen]; simp) s' rfl _ hmem
      refine ⟨c :: b, w', gap', after, ?_⟩
      rwa [List.append_cons pre c s', List.append_cons pre c b]

/-- A text without blanks, or without characters of names, has no names of tables. -/
theorem namesBehind_eq_nil
    (h : (∀ c ∈ s, isBlank c = false) ∨ ∀ c ∈ s, isNameChar c = false) (pre : Sql) :
    namesBehind pre s = [] := by
  refine List.eq_nil_iff_forall_not_mem.mpr fun n hn => ?_
  obtain ⟨b, w, gap, after, href⟩ := exists_place_of_mem s pre hn
  have hs := href.text
  rw [List.append_assoc, List.append_cancel_left_eq] at hs
  rcases h with h | h
  · obtain ⟨c, gap, rfl⟩ := List.exists_cons_of_ne_nil href.gap_ne
    have hc := h c (by rw [hs]; simp)
    rw [href.blank c List.mem_cons_self] at hc
    exact absurd hc (by simp)
  · obtain ⟨c, n, rfl⟩ := List.exists_cons_of_ne_nil href.run.ne_nil
    have hc := h c (by rw [hs]; simp)
    rw [href.run.chars c List.mem_cons_self] at hc
    exact absurd hc (by simp)

theorem namesBehind_nil (pre : Sql) : namesBehind pre [] = [] :=
  namesBehind_eq_nil (by simp) pre

theorem TableRef.unique {w' gap' name' rest' : Sql} (h : TableRef s pre w gap name rest)
    (h' : TableRef s pre w' gap' name' rest') :
    w ++ gap = w' ++ gap' ∧ name = name' ∧ rest = rest' := by
  have hs := h.text.symm.trans h'.text
  rw [List.append_cancel_left_eq] at hs
  have hsplit := h.splitTable
  rw [hs, h'.splitTable] at hsplit
  simp only [Option.some.injEq, Prod.mk.injEq] at hsplit
  obtain ⟨rfl, rfl⟩ := hsplit
  rw [List.append_cancel_right_eq, List.append_cancel_right_eq] at hs
  exact ⟨hs, rfl, rfl⟩

/-- The scan finds the name of a reference that stands where it is. -/
theorem namesBehind_found (h : TableRef (pre ++ s) pre w gap name rest) :
    namesBehind pre s = name :: namesBehind (pre ++ (w ++ gap ++ name)) rest := by
  cases scanStep pre s with
  | stop =>
    have hs := h.text
    rw [List.append_cancel_left_eq] at hs
    exact absurd hs.symm (by simp [h.lead.ne_nil])
  | found href _ hnames =>
    obtain ⟨hw, rfl, rfl⟩ := h.unique href
    rw [hnames, hw]
  | pass hnone _ => exact absurd h (hnone _ _ _ _)

/-- Where no reference stands the scan goes on behind the next character. -/
theorem namesBehind_pass {c : Char}
    (h : ∀ w gap name rest, ¬ TableRef (pre ++ c :: s) pre w gap name rest) :
    namesBehind pre (c :: s) = namesBehind (pre ++ [c]) s := by
  cases scanStep pre (c :: s) with
  | found href _ _ => exact absurd href (h _ _ _ _)
  | pass _ hnames => exact hnames

/-- A reference stays where the text goes on with something that cannot extend its name. -/
theorem TableRef.append (h : TableRef (pre ++ a) pre w gap name rest)
    (hb : ∀ c ∈ b.head?, isNameChar c = false) :
    TableRef (pre ++ (a ++ b)) pre w gap name (rest ++ b) := by
  refine ⟨?_, h.lead, h.begins, h.gap_ne, h.blank, h.run.ne_nil, h.run.chars, ?_⟩
  · rw [← List.append_assoc, h.text]
    simp only [List.append_assoc]
  · cases rest with
    | nil => exact hb
    | cons d rest => exact h.run.ends

/-- Whatever a text goes on with, a reference stands where one stood, though its name may be
longer. -/
theorem TableRef.exists_append (h : TableRef (pre ++ a) pre w gap name rest) (b : Sql) :
    ∃ name' rest', TableRef (pre ++ (a ++ b)) pre w gap name' rest' := by
  cases rest with
  | cons d rest =>
    refine ⟨name, d :: rest ++ b, ?_, h.lead, h.begins, h.gap_ne, h.blank, h.run.ne_nil,
      h.run.chars, h.run.ends⟩
    rw [← List.append_assoc, h.text]
    simp only [List.append_assoc]
  | nil =>
    refine ⟨name ++ b.takeWhile isNameChar, b.dropWhile isNameChar, ?_, h.lead, h.begins, h.gap_ne,
      h.blank, by simp [h.run.ne_nil], ?_, ?_⟩
    · rw [← List.append_assoc, h.text]
      simp only [List.append_assoc, List.nil_append, List.takeWhile_append_dropWhile]
    · intro c hc
      exact (List.mem_append.mp hc).elim (h.run.chars c) fun hc => List.mem_takeWhile_imp hc
    · intro c hc
      simpa [Option.mem_def.mp hc] using List.head?_dropWhile_not isNameChar b

/-- A reference whose name ends in the first part of a text stands in that part. -/
theorem TableRef.of_append (h : TableRef (pre ++ (a ++ b)) pre w gap name (rest ++ b)) :
    TableRef (pre ++ a) pre w gap name rest := by
  refine ⟨?_, h.lead, h.begins, h.gap_ne, h.blank, h.run.ne_nil, h.run.chars, ?_⟩
  · have hs := h.text
    rw [List.append_cancel_left_eq, ← List.append_assoc, List.append_cancel_right_eq] at hs
    rw [hs]
  · intro c hc
    obtain ⟨rest', rfl⟩ := List.head?_eq_some_iff.mp hc
    exact h.run.ends c rfl

/-- Where a text ends in a name, so does what the text ends in. -/
theorem eq_nil_of_name_end {front x : Sql} (hname : ∀ c ∈ name, isNameChar c = true)
    (hne : name ≠ []) (hs : front ++ name = u ++ x) (hx : ∀ c ∈ x, isNameChar c = false) :
    x = [] := by
  by_contra hnx
  have hlast := congrArg List.getLast? hs
  rw [List.getLast?_append, List.getLast?_append, List.getLast?_eq_some_getLast hne,
    List.getLast?_eq_some_getLast hnx, Option.some_or, Option.some_or] at hlast
  have hmem := hname _ (List.getLast_mem hne)
  rw [Option.some.inj hlast, hx _ (List.getLast_mem hnx)] at hmem
  exact Bool.false_ne_true hmem

/-- **Nothing is read behind the last character of a name**: characters of no name at the end of a
text change no name that the scan finds. -/
theorem namesBehind_append (hb : ∀ c ∈ b, isNameChar c = false) : ∀ (u pre : Sql),
    namesBehind pre (u ++ b) = namesBehind pre u := by
  intro u
  induction hlen : u.length using Nat.strong_induction_on generalizing u with
  | _ len ih =>
    intro pre
    cases u with
    | nil => rw [List.nil_append, namesBehind_eq_nil (Or.inr hb), namesBehind_nil]
    | cons c u =>
      have hhead : ∀ c ∈ b.head?, isNameChar c = false := fun c hc => hb c (List.mem_of_head? hc)
      by_cases hx : ∃ w gap name rest, TableRef (pre ++ (c :: u ++ b)) pre w gap name rest
      · obtain ⟨w, gap, name, rest, href⟩ := hx
        have hs := href.text
        rw [List.append_cancel_left_eq] at hs
        rcases List.append_eq_append_iff.mp hs with ⟨x, hx, hbx⟩ | ⟨rest', hu, rfl⟩
        · -- the last character of the name would stand in `b`
          have hnil : x = [] := eq_nil_of_name_end href.run.chars href.run.ne_nil hx fun c hc =>
            hb c (by rw [hbx]; exact List.mem_append_left _ hc)
          subst hnil
          rw [List.append_nil] at hx
          rw [List.nil_append] at hbx
          subst hbx
          have hin : TableRef (pre ++ c :: u) pre w gap name [] := by
            refine TableRef.of_append (b := b) ?_
            rwa [List.nil_append]
          rw [namesBehind_found href, namesBehind_found hin, namesBehind_eq_nil (Or.inr hb),
            namesBehind_nil]
        · have hlt : rest'.length < len := by
            rw [← hlen, hu]
            have := List.length_pos_iff.mpr href.run.ne_nil
            simp only [List.length_append]
            omega
          rw [namesBehind_found href, namesBehind_found href.of_append, ih _ hlt rest' rfl]
      · have hnone : ∀ w gap name rest, ¬ TableRef (pre ++ c :: (u ++ b)) pre w gap name rest :=
          fun w gap name rest h => hx ⟨w, gap, name, rest, h⟩
        have hnone' : ∀ w gap name rest, ¬ TableRef (pre ++ c :: u) pre w gap name rest :=
          fun w gap name rest h => hnone _ _ _ _ (h.append hhead)
        rw [List.cons_append, namesBehind_pass hnone, namesBehind_pass hnone',
          ih u.length (by rw [← hlen]; simp) u rfl]

/-! ## Open leads -/

/-- The text `s`, which stands behind `pre`, is `before` and the whole word `FROM` or `JOIN`, and
the scan finds the same names without that word. -/
structure EndsOpen (pre s before w : Sql) : Prop where
  text : s = before ++ w
  lead : SpellsLead w
  begins : beginsWord (pre ++ before) = true
  names : namesBehind pre before = namesBehind pre s

theorem EndsOpen.ne_nil {before : Sql} (h : EndsOpen pre s before w) : s ≠ [] := by
  rw [h.text]
  simp [h.lead.ne_nil]

/-- What stands behind a gap is read as a name behind an open lead. -/
theorem EndsOpen.tableRef {before : Sql} (h : EndsOpen pre s before w) (hne : gap ≠ [])
    (hg : AllBlank gap) (hrun : NameRun n rest) :
    TableRef (pre ++ (s ++ (gap ++ n ++ rest))) (pre ++ before) w gap n rest := by
  refine ⟨?_, h.lead, h.begins, hne, hg, hrun⟩
  rw [h.text]
  simp only [List.append_assoc]

/-- A word that is a lead by itself is open, if a word may begin there. -/
theorem endsOpen_self (hw : SpellsLead w) (hb : beginsWord pre = true) : EndsOpen pre w [] w := by
  refine ⟨rfl, hw, by rwa [List.append_nil], ?_⟩
  rw [namesBehind_nil,
    namesBehind_eq_nil (Or.inl fun c hc => not_isBlank_of_isWord (hw.isWord c hc))]

/-- Where no reference stands at the start of a text, its open leads are those behind the first
character. -/
theorem endsOpen_cons_iff {c : Char} {before : Sql}
    (hnone : ∀ w gap name rest, ¬ TableRef (pre ++ c :: s) pre w gap name rest) :
    EndsOpen pre (c :: s) (c :: before) w ↔ EndsOpen (pre ++ [c]) s before w := by
  have hiff : c :: s = c :: before ++ w ↔ s = before ++ w := by
    rw [List.cons_append, List.cons.injEq]
    exact and_iff_right rfl
  have hnames : s = before ++ w →
      namesBehind pre (c :: before) = namesBehind (pre ++ [c]) before := by
    rintro rfl
    refine namesBehind_pass fun w' gap name rest href => ?_
    obtain ⟨name', rest', h⟩ := href.exists_append w
    exact hnone _ _ _ _ h
  constructor
  · intro h
    have ht := hiff.mp h.text
    refine ⟨ht, h.lead, by rw [← List.append_cons]; exact h.begins, ?_⟩
    rw [← hnames ht, h.names, namesBehind_pass hnone]
  · intro h
    refine ⟨hiff.mpr h.text, h.lead, by rw [List.append_cons]; exact h.begins, ?_⟩
    rw [hnames h.text, h.names, namesBehind_pass hnone]

/-- Behind a reference the open leads are those of the rest. -/
theorem EndsOpen.behind {before w' : Sql} (href : TableRef (pre ++ s) pre w gap name rest)
    (h : EndsOpen (pre ++ (w ++ gap ++ name)) rest before w') :
    EndsOpen pre s (w ++ gap ++ name ++ before) w' := by
  have hs := href.text
  rw [List.append_cancel_left_eq] at hs
  refine ⟨by rw [hs, h.text, List.append_assoc _ before],
    h.lead, by rw [← List.append_assoc]; exact h.begins, ?_⟩
  have hin : TableRef (pre ++ (w ++ gap ++ name ++ before)) pre w gap name before := by
    refine TableRef.of_append (b := w') ?_
    rw [List.append_assoc _ before, ← h.text, ← hs]
    exact href
  rw [namesBehind_found hin, namesBehind_found href, h.names]

/-- **A lead that ends a name is not open**: an open lead stands behind every name that the scan
finds. -/
theorem EndsOpen.of_behind {before w' : Sql} (href : TableRef (pre ++ s) pre w gap name rest)
    (h : EndsOpen pre s before w') :
    ∃ b, EndsOpen (pre ++ (w ++ gap ++ name)) rest b w' := by
  have hs := href.text
  rw [List.append_cancel_left_eq] at hs
  have hfound := namesBehind_found href
  have hbefore : before ≠ [] := by
    rintro rfl
    obtain ⟨d, gap, rfl⟩ := List.exists_cons_of_ne_nil href.gap_ne
    have hd := h.lead.isWord d (by rw [← List.nil_append w', ← h.text, hs]; simp)
    rw [isWord_of_isBlank (href.blank d List.mem_cons_self)] at hd
    exact Bool.false_ne_true hd
  -- with a name put behind it, the open lead makes a second reference
  have hx : NameRun ['x'] [] := ⟨by simp, by decide, by simp⟩
  have hend : ∀ c ∈ ([' '] ++ ['x'] ++ []).head?, isNameChar c = false := by
    rintro c ⟨⟩
    decide
  have href' := href.append hend
  have hopen := h.tableRef (by simp) (show AllBlank [' '] by decide) hx
  rcases overlap href' hopen hbefore with ⟨b, rfl⟩ | ⟨x, rfl, rfl, hrest⟩
  · refine ⟨b, ?_, h.lead, by rw [List.append_assoc]; exact h.begins, ?_⟩
    · have ht := h.text
      rwa [hs, List.append_assoc _ b, List.append_cancel_left_eq] at ht
    · have hin : TableRef (pre ++ (w ++ gap ++ name ++ b)) pre w gap name b := by
        refine TableRef.of_append (b := w') ?_
        have ht := h.text
        rw [hs, List.append_assoc _ b, List.append_cancel_left_eq] at ht
        rw [List.append_assoc _ b, ← ht, ← hs]
        exact href
      have hnames := h.names
      rw [namesBehind_found hin, hfound, List.cons.injEq] at hnames
      exact hnames.2
  · rw [List.append_left_eq_self] at hrest
    subst hrest
    have hnames := h.names
    rw [hfound, namesBehind_nil] at hnames
    by_cases hnx : x = []
    · have hgap : ∀ c ∈ gap ++ x, isNameChar c = false := fun c hc =>
        isNameChar_of_isBlank (href.blank c (by simpa [hnx] using hc))
      rw [List.append_assoc, namesBehind_append hgap,
        namesBehind_eq_nil (Or.inl fun c hc => not_isBlank_of_isWord (href.lead.isWord c hc))]
        at hnames
      exact absurd hnames (by simp)
    · have hin : TableRef (pre ++ (w ++ gap ++ x)) pre w gap x [] := by
        refine ⟨by simp only [List.append_nil], href.lead, href.begins, href.gap_ne, href.blank,
          hnx, fun c hc => href.run.chars c (List.mem_append_left _ hc), by simp⟩
      rw [namesBehind_found hin, List.cons.injEq] at hnames
      exact absurd (List.self_eq_append_right.mp hnames.1) h.lead.ne_nil

/-- A reference behind a text that ends in no blank has its name in that text, or the text is its
keyword. -/
theorem TableRef.ends_or_lead {v : Sql} (h : TableRef (pre ++ (u ++ v)) pre w gap name rest)
    (hu : endsBlank u = false) (hne : u ≠ []) (hv : startsBlank v = true) :
    (∃ rest', rest = rest' ++ v ∧ TableRef (pre ++ u) pre w gap name rest') ∨ u = w := by
  have hin : ∀ rest', rest = rest' ++ v → TableRef (pre ++ u) pre w gap name rest' := by
    rintro rest' rfl
    exact h.of_append
  have hs := h.text
  rw [List.append_cancel_left_eq] at hs
  rcases List.append_eq_append_iff.mp hs with ⟨x, hx, rfl⟩ | ⟨rest', -, rfl⟩
  · by_cases hnx : x = []
    · subst hnx
      exact Or.inl ⟨[], rfl, hin [] rfl⟩
    -- the name would begin behind the text, so its gap would, and only the keyword is left
    obtain ⟨c, x, rfl⟩ := List.exists_cons_of_ne_nil hnx
    have hc : isBlank c = true := hv
    rw [List.append_assoc] at hx
    rcases List.append_eq_append_iff.mp hx with ⟨y, rfl, hy⟩ | ⟨y, rfl, hy⟩
    · by_cases hny : y = []
      · exact Or.inr (by rw [hny, List.append_nil])
      rw [endsBlank_append hny] at hu
      rcases List.append_eq_append_iff.mp hy with ⟨z, rfl, hz⟩ | ⟨z, rfl, -⟩
      · have hname := h.run.chars c (by rw [hz]; simp)
        rw [isNameChar_of_isBlank hc] at hname
        exact absurd hname Bool.false_ne_true
      · obtain ⟨init, d, rfl⟩ := (List.eq_nil_or_concat y).resolve_left hny
        have hd : isBlank d = true := h.blank d (by simp)
        rw [List.concat_eq_append, endsBlank_append (by simp)] at hu
        exact absurd (hd.symm.trans hu) (by simp)
    · cases y with
      | nil => exact Or.inr (List.append_nil u).symm
      | cons d y =>
        rw [List.cons_append, List.cons.injEq] at hy
        have hd := h.lead.isWord d (by simp)
        rw [← hy.1, isWord_of_isBlank hc] at hd
        exact absurd hd Bool.false_ne_true
  · exact Or.inl ⟨rest', rfl, hin rest' rfl⟩

/-- **What is put behind a gap is read as a name iff the text ends in an open lead**, if it has no
names of its own. -/
theorem namesBehind_gap (hne : gap ≠ []) (hg : AllBlank gap) (hrun : NameRun n rest)
    (hv : ∀ pre, namesBehind pre (gap ++ n ++ rest) = []) (hr : ∀ pre, namesBehind pre rest = []) :
    ∀ (u pre : Sql), endsBlank u = false →
      ((∃ before w, EndsOpen pre u before w) →
        namesBehind pre (u ++ (gap ++ n ++ rest)) = namesBehind pre u ++ [n]) ∧
      ((¬ ∃ before w, EndsOpen pre u before w) →
        namesBehind pre (u ++ (gap ++ n ++ rest)) = namesBehind pre u) := by
  have hstart : startsBlank (gap ++ n ++ rest) = true := by
    obtain ⟨c, gap, rfl⟩ := List.exists_cons_of_ne_nil hne
    exact hg c List.mem_cons_self
  intro u
  induction hlen : u.length using Nat.strong_induction_on generalizing u with
  | _ len ih =>
    intro pre hu
    cases u with
    | nil =>
      rw [List.nil_append, hv, namesBehind_nil]
      exact ⟨fun ⟨_, _, h⟩ => absurd rfl h.ne_nil, fun _ => rfl⟩
    | cons c u =>
      by_cases hx : ∃ w gap' name rest', TableRef (pre ++ (c :: u ++ (gap ++ n ++ rest))) pre w gap'
          name rest'
      · obtain ⟨w, gap', name, rest', href⟩ := hx
        rcases href.ends_or_lead hu (by simp) hstart with ⟨rest', rfl, hin⟩ | rfl
        · have hs := hin.text
          rw [List.append_cancel_left_eq] at hs
          have hlt : rest'.length < len := by
            have := List.length_pos_iff.mpr hin.run.ne_nil
            rw [← hlen, hs]
            simp only [List.length_append]
            omega
          have hu' : endsBlank rest' = false := by
            by_cases hn : rest' = []
            · rw [hn]; rfl
            · rwa [hs, endsBlank_append hn] at hu
          have hopen : (∃ before w', EndsOpen pre (c :: u) before w') ↔
              ∃ before w', EndsOpen (pre ++ (w ++ gap' ++ name)) rest' before w' :=
            ⟨fun ⟨_, w', h⟩ => let ⟨b, hb⟩ := h.of_behind hin; ⟨b, w', hb⟩,
              fun ⟨_, w', h⟩ => ⟨_, w', h.behind hin⟩⟩
          obtain ⟨hyes, hno⟩ := ih _ hlt rest' rfl (pre ++ (w ++ gap' ++ name)) hu'
          rw [namesBehind_found href, namesBehind_found hin, hopen]
          exact ⟨fun h => by rw [hyes h]; rfl, fun h => by rw [hno h]⟩
        · -- the text is a lead by itself, and the name is what stands behind the gap
          have hopen := endsOpen_self href.lead href.begins
          have href' := hopen.tableRef hne hg hrun
          rw [List.append_nil] at href'
          rw [namesBehind_found href', hr, ← hopen.names, namesBehind_nil]
          exact ⟨fun _ => rfl, fun h => absurd ⟨_, _, hopen⟩ h⟩
      · have hnone : ∀ w gap' name rest',
            ¬ TableRef (pre ++ c :: (u ++ (gap ++ n ++ rest))) pre w gap' name rest' :=
          fun w gap' name rest' h => hx ⟨w, gap', name, rest', h⟩
        have hnone' : ∀ w gap' name rest', ¬ TableRef (pre ++ c :: u) pre w gap' name rest' := by
          intro w gap' name rest' h
          obtain ⟨name', rest'', h'⟩ := h.exists_append (gap ++ n ++ rest)
          exact hnone _ _ _ _ h'
        have hu' : endsBlank u = false := by
          by_cases hn : u = []
          · rw [hn]; rfl
          · rwa [← List.singleton_append, endsBlank_append hn] at hu
        have hopen : (∃ before w, EndsOpen pre (c :: u) before w) ↔
            ∃ before w, EndsOpen (pre ++ [c]) u before w := by
          constructor
          · rintro ⟨before, w, h⟩
            cases before with
            | nil =>
              have href := h.tableRef hne hg hrun
              rw [List.append_nil] at href
              exact absurd href (hnone _ _ _ _)
            | cons d before =>
              have hd : d = c := by
                have ht := h.text
                rw [List.cons_append, List.cons.injEq] at ht
                exact ht.1.symm
              rw [hd] at h
              exact ⟨before, w, (endsOpen_cons_iff hnone').mp h⟩
          · rintro ⟨before, w, h⟩
            exact ⟨c :: before, w, (endsOpen_cons_iff hnone').mpr h⟩
        rw [List.cons_append, namesBehind_pass hnone, namesBehind_pass hnone', hopen]
        exact ih u.length (by rw [← hlen]; simp) u rfl _ hu'

end Scan

/-! ## Leads at the end -/

/-- A lead has the letter O. -/
theorem SpellsLead.letter {w : Sql} (h : SpellsLead w) : ∃ c ∈ w, foldLetter c = 'o' := by
  have hmem : 'o' ∈ w.map foldLetter := by
    rcases h with h | h <;> rw [h] <;> decide
  exact List.mem_map.mp hmem

theorem namesBehind_of_letters {s : Sql} (h : ∀ c ∈ s, foldLetter c ≠ 'o') (pre : Sql) :
    namesBehind pre s = [] := by
  refine List.eq_nil_iff_forall_not_mem.mpr fun n hn => ?_
  obtain ⟨b, w, gap, after, href⟩ := exists_place_of_mem s pre hn
  have hs := href.text
  rw [List.append_assoc, List.append_cancel_left_eq] at hs
  obtain ⟨c, hc, ho⟩ := href.lead.letter
  exact h c (by rw [hs]; simp [hc]) ho

/-- The text ends in the word `FROM` or `JOIN`, and the scan finds the same names without it. -/
def OpenLead (s : Sql) : Prop := ∃ before w, EndsOpen [] s before w

theorem openLead_iff_cut {s : Sql} : OpenLead s ↔ ∃ n < s.length,
    SpellsLead (s.drop n) ∧ beginsWord (s.take n) = true ∧
      tableNamesFrom false (s.take n) = tableNamesFrom false s := by
  constructor
  · rintro ⟨before, w, rfl, hw, hb, hn⟩
    refine ⟨before.length, ?_, ?_⟩
    · have := List.length_pos_iff.mpr hw.ne_nil
      simp only [List.length_append]
      omega
    rw [List.take_left' rfl, List.drop_left' rfl]
    exact ⟨hw, hb, hn⟩
  · rintro ⟨n, -, hw, hb, hn⟩
    exact ⟨s.take n, s.drop n, (List.take_append_drop n s).symm, hw, hb, hn⟩

instance (s : Sql) : Decidable (OpenLead s) := decidable_of_iff _ openLead_iff_cut.symm

/-- The stem of a text names the tables of the text. -/
theorem tableNames_stem (s : Sql) : (stem s).tableNames = s.tableNames := by
  obtain ⟨rest, hs, hrest⟩ := stem_split s
  have hchars : ∀ c ∈ rest, isNameChar c = false := by
    intro c hc
    rcases hrest c hc with hb | rfl
    · exact isNameChar_of_isBlank hb
    · decide
  have hnames := namesBehind_append hchars (stem s) []
  rw [← hs] at hnames
  exact (congrArg (List.map tableName) hnames).symm

end QueryGate.Sql

namespace QueryGate.Gate

open Text Sql

variable {g : Gate} {p : Privilege} {sql c q : Sql} {heads : List (Sql × Sql)}

/-! ## What a second judgement sees -/

theorem foldLetter_of_mem_toDigits {n : Nat} : ∀ c ∈ Nat.toDigits 10 n, foldLetter c ≠ 'o' := by
  intro c hc
  obtain ⟨hlo, hhi⟩ := toNat_of_mem_toDigits hc
  rcases foldLetter_cases c with hu | rfl | rfl | he
  · omega
  · exact absurd hhi (by decide)
  · exact absurd hhi (by decide)
  · rw [he]
    rintro rfl
    exact absurd hhi (by decide)

theorem not_isNameChar_head (s : Sql) : ∀ c ∈ (' ' :: s).head?, isNameChar c = false := by
  intro c hc
  obtain rfl : ' ' = c := Option.some.inj hc
  decide

/-- **The limit clause names no table, except behind an open lead**: there its keyword is read as
one. -/
theorem tableNames_limitClause (g : Gate) (c : Sql) :
    (OpenLead (stem c) → (stem c ++ g.limitClause).tableNames = c.tableNames ++ [limitWord]) ∧
      (¬ OpenLead (stem c) → (stem c ++ g.limitClause).tableNames = c.tableNames) := by
  have hdigits : ∀ d ∈ ' ' :: Nat.toDigits 10 g.maxRows, foldLetter d ≠ 'o' :=
    List.forall_mem_cons.mpr ⟨by decide, foldLetter_of_mem_toDigits⟩
  have hclause : ∀ d ∈ [' '] ++ "LIMIT".toList ++ ' ' :: Nat.toDigits 10 g.maxRows,
      foldLetter d ≠ 'o' :=
    List.forall_mem_append.mpr ⟨by decide, hdigits⟩
  have hrun : NameRun "LIMIT".toList (' ' :: Nat.toDigits 10 g.maxRows) :=
    ⟨by decide, by decide, not_isNameChar_head _⟩
  obtain ⟨hyes, hno⟩ := namesBehind_gap (by simp) (show AllBlank [' '] by decide) hrun
    (namesBehind_of_letters hclause) (namesBehind_of_letters hdigits) (stem c) []
    (endsBlank_trimEnd _)
  have hlimit : tableName "LIMIT".toList = limitWord := by decide
  rw [← tableNames_stem c]
  constructor
  · intro h
    have hnames := congrArg (List.map tableName) (hyes h)
    rw [List.map_append, List.map_singleton, hlimit] at hnames
    exact hnames
  · exact fun h => congrArg (List.map tableName) (hno h)

theorem limitIn_withLimit (h : c.startsSelect = true) : LimitIn (g.withLimit c) := by
  unfold withLimit
  split
  · rename_i hlimit
    exact hasLimit_iff.mp hlimit
  · exact ⟨_, g.limitAt_limitClause _⟩

/-- A statement gets no second limit. -/
theorem withLimit_withLimit (g : Gate) (c : Sql) : g.withLimit (g.withLimit c) = g.withLimit c := by
  rcases g.withLimit_cases c with h | ⟨-, hselect, -⟩
  · rw [h, h]
  · exact (g.withLimit_cases _).resolve_right fun h => h.1 (limitIn_withLimit hselect)

theorem respaced_spaced (heads : List (Sql × Sql)) (c : Sql) :
    respaced (spaced heads) c = respaced heads c := by
  induction heads with
  | nil => rfl
  | cons kw heads ih => exact congrArg (kw.1 ++ ' ' :: ·) ih

theorem endsBlank_withLimit (h : endsBlank c = false) : endsBlank (g.withLimit c) = false := by
  rcases g.withLimit_cases c with heq | ⟨-, -, heq⟩
  · rwa [heq]
  · have hne := Nat.toDigits_ne_nil (n := g.maxRows) (b := 10)
    obtain ⟨init, d, hd⟩ := (List.eq_nil_or_concat _).resolve_left hne
    have hword := isWord_of_mem_toDigits (c := d) (n := g.maxRows) (by rw [hd]; simp)
    rw [heq, limitClause_eq, endsBlank_append (by simp), endsBlank_append (by simp),
      endsBlank_append hne, hd, List.concat_eq_append, endsBlank_append (by simp)]
    exact not_isBlank_of_isWord hword

/-- The gate's own limit makes the core name a table that a standard caller may not read. -/
def LimitExposed (g : Gate) (p : Privilege) (c : Sql) : Prop :=
  p = .standard ∧ ¬ LimitIn c ∧ OpenLead (stem c) ∧ g.allowed.contains limitWord = false

theorem startsSelect_withLimit (h : Sendable c) :
    (g.withLimit c).startsSelect = startsWord selectWord c := by
  rw [startsSelect_eq (sendable_withLimit g h).starts, startsWord_select_withLimit]

/-- What was found allowed stays allowed, unless the limit is exposed. -/
theorem contains_tableNames_withLimit (h : ¬ LimitExposed g .standard c)
    (ht : ∀ t ∈ c.tableNames, g.allowed.contains t = true) :
    ∀ t ∈ (g.withLimit c).tableNames, g.allowed.contains t = true := by
  rcases g.withLimit_cases c with heq | ⟨hlimit, -, heq⟩
  · rwa [heq]
  · rw [heq]
    obtain ⟨hyes, hno⟩ := g.tableNames_limitClause c
    by_cases hopen : OpenLead (stem c)
    · rw [hyes hopen]
      refine List.forall_mem_append.mpr ⟨ht, List.forall_mem_singleton.mpr ?_⟩
      rw [← Bool.not_eq_false]
      exact fun hdenied => h ⟨rfl, hlimit, hopen, hdenied⟩
    · rwa [hno hopen]

/-- An exposed limit is the first table that a second judgement denies. -/
theorem deniedTable?_withLimit (h : LimitExposed g p c) (hselect : c.startsSelect = true)
    (ht : ∀ t ∈ c.tableNames, g.allowed.contains t = true) :
    g.deniedTable? (g.withLimit c) = some limitWord := by
  obtain ⟨-, hlimit, hopen, hdenied⟩ := h
  have heq : g.withLimit c = stem c ++ g.limitClause := by
    rcases g.withLimit_cases c with heq | ⟨-, -, heq⟩
    · exact absurd (heq ▸ limitIn_withLimit hselect) hlimit
    · exact heq
  have hnone : c.tableNames.find? (!g.allowed.contains ·) = none := deniedTable?_eq_none_iff.mpr ht
  rw [heq, deniedTable?, (g.tableNames_limitClause c).1 hopen, List.find?_append, hnone,
    Option.none_or, List.find?_singleton, hdenied]
  rfl

/-- **An admitted statement is admitted again as it is, unless the gate's own limit stands behind an
open lead.** There a standard caller is denied the table `limit`, if it is not allow-listed. -/
theorem judge_again (hq : g.judge p sql = .accepted q) (hl : Layers heads (trim sql) c) :
    (g.judge p q = .accepted q ↔ ¬ LimitExposed g p c) ∧
      (LimitExposed g p c → g.judge p q = .rejected (.tableDenied limitWord)) := by
  obtain ⟨heads', c', ha, rfl⟩ := judge_eq_accepted_iff.mp hq
  obtain ⟨rfl, rfl⟩ := hl.unique ha.layers
  have hsend := sendable_withLimit g ha.sendable
  have hheads := fun kw hkw => (hl.spells_of_mem kw hkw).1
  have hagain := layers_respaced hheads hsend.starts hsend.plain
  -- nothing is trimmed off, so the layers are those of the text as it is judged again
  have hend : endsBlank (respaced heads (g.withLimit c)) = false := by
    have hc := endsBlank_trim sql
    rw [hl.text, endsBlank_append ha.ne_nil] at hc
    rw [hagain.text, endsBlank_append hsend.ne_nil]
    exact endsBlank_withLimit hc
  rw [← trim_eq_self hagain.startsBlank hend] at hagain
  have hsingle := mt hagain.secondStatement_iff.mp hsend.single
  have hpermitted := mt hagain.forbidden_iff.mp hsend.permitted
  have haccepted (h : ¬ LimitExposed g p c) : g.judge p (respaced heads (g.withLimit c)) =
      .accepted (respaced heads (g.withLimit c)) := by
    refine judge_eq_accepted_iff.mpr ⟨_, _,
      ⟨hagain, hsend.ne_nil, hsingle, hpermitted, fun hst => ?_, fun hst => ?_⟩, ?_⟩
    · rw [startsWord_select_withLimit]
      exact ha.select hst
    · subst hst
      exact contains_tableNames_withLimit h (ha.tables rfl)
    · rw [withLimit_withLimit, respaced_spaced]
  have hrejected (h : LimitExposed g p c) : g.judge p (respaced heads (g.withLimit c)) =
      .rejected (.tableDenied limitWord) := by
    obtain rfl := h.1
    have hselect := (startsSelect_eq ha.sendable.starts).trans (ha.select rfl)
    have hdenied := deniedTable?_withLimit h hselect (ha.tables rfl)
    rw [judge_eq g .standard hagain, if_neg (mt hasSecondStatement_iff.mp hsingle),
      if_neg (mt hasForbidden_iff.mp hpermitted), if_neg hsend.ne_nil]
    simp only [judgePlain, Privilege.isAdmin, Bool.false_eq_true, if_false,
      startsSelect_withLimit ha.sendable, ha.select rfl, if_true, hdenied, reheaded]
  refine ⟨⟨fun hacc h => ?_, haccepted⟩, hrejected⟩
  rw [hrejected h] at hacc
  exact absurd hacc (by simp)

/-- An explained statement whose gap is narrowed and which gets a limit. -/
theorem judge_again_explained :
    Gate.judge {} .standard "EXPLAIN SELECT * FROM sample_orders LIMIT 1000".toList =
      .accepted "EXPLAIN SELECT * FROM sample_orders LIMIT 1000".toList := by
  have hq : Gate.judge {} .standard "EXPLAIN  SELECT * FROM sample_orders ;".toList =
      .accepted "EXPLAIN SELECT * FROM sample_orders LIMIT 1000".toList := by decide +kernel
  have hcore : Layers [] "SELECT * FROM sample_orders ;".toList
      "SELECT * FROM sample_orders ;".toList := .core (by decide) (by decide)
  have hl : Layers [("EXPLAIN".toList, "  ".toList)]
      (trim "EXPLAIN  SELECT * FROM sample_orders ;".toList)
      "SELECT * FROM sample_orders ;".toList :=
    .explain (by decide) (by decide) (by decide) (by decide) hcore
  have hopen : ¬ OpenLead (stem "SELECT * FROM sample_orders ;".toList) := by decide +kernel
  exact (judge_again hq hl).1.mpr fun h => hopen h.2.2.1

/-- **A statement that ends in a user variable named `from` is admitted once**, and denied in the
form in which it was admitted. -/
theorem open_lead_not_readmitted :
    Gate.judge {} .standard "SELECT @from".toList =
        .accepted "SELECT @from LIMIT 1000".toList ∧
      Gate.judge {} .standard "SELECT @from LIMIT 1000".toList =
        .rejected (.tableDenied "limit".toList) := by
  decide +kernel

end QueryGate.Gate
