import QueryGate.Admission.AllowList
import QueryGate.Proofs.Admission.Reading

/-!
# The scan for tables sees every place

The scan goes from left to right and goes on behind each name that it has found, so of two
references that overlap it sees the first only. They overlap in one way: the keyword of the second
is the end of the name of the first.

* `TableRef s before w gap name after`: in `s` the name stands behind a whole word `FROM` or `JOIN`.
* `exists_tableRef`: every name that the scan finds stands at such a place.
* `mem_or_swallowed`: every name at such a place is found, or its keyword is the end of a name that
  is found.
* `allowed_iff_everywhere`: unless an allow-listed name ends in `from` or `join`, the names found
  are allow-listed iff the names at all places are.
-/

namespace QueryGate.Sql

open Text

/-- In `s`, behind `before`, the whole word `FROM` or `JOIN` stands as `w`, then a gap, then the
longest run `name` of characters of table names. -/
structure TableRef (s before w gap name after : Sql) : Prop where
  text : s = before ++ (w ++ gap ++ name ++ after)
  lead : SpellsLead w
  begins : beginsWord before = true
  gap_ne : gap ≠ []
  blank : AllBlank gap
  run : NameRun name after

/-- A name as the allow-list has it: without backticks and in lower case. -/
def tableName (name : Sql) : Sql := lower (name.filter (· != '\x60'))

theorem tableNames_eq (s : Sql) : s.tableNames = (tableNamesFrom false s).map tableName := rfl

theorem SpellsLead.not_endsWord {w : Sql} (h : SpellsLead w) (after : Sql) :
    endsWord (w ++ after) = false :=
  h.elim (fun h => h.not_endsWord proper_fromWord after)
    fun h => h.not_endsWord proper_joinWord after

theorem TableRef.splitTable {s before w gap name after : Sql}
    (h : TableRef s before w gap name after) :
    Sql.splitTable (w ++ gap ++ name ++ after) = some (name, after) :=
  splitTable_eq_some_iff.mpr ⟨w, gap, rfl, h.lead, h.gap_ne, h.blank, h.run⟩

theorem TableRef.not_endsWord {s before w gap name after : Sql}
    (h : TableRef s before w gap name after) : endsWord (w ++ gap ++ name ++ after) = false := by
  rw [List.append_assoc, List.append_assoc]
  exact h.lead.not_endsWord _

theorem NameRun.endsWord {name rest : Sql} (h : NameRun name rest) : endsWord rest = true := by
  refine endsWord_iff.mpr fun c hc => ?_
  have hn := h.ends c hc
  unfold isNameChar at hn
  exact (Bool.or_eq_false_iff.mp hn).1

/-! ## One step of the scan -/

theorem tableNamesFrom_of_splitTable {s name rest : Sql}
    (h : s.splitTable = some (name, rest)) :
    tableNamesFrom false s = name :: tableNamesFrom true rest := by
  cases s with
  | nil =>
    obtain ⟨w, gap, hs, hw, -⟩ := splitTable_eq_some_iff.mp h
    exact absurd hs (by simp [hw.ne_nil])
  | cons c s =>
    rw [tableNamesFrom]
    split
    · rename_i n r hx
      rw [if_neg (by simp), h] at hx
      simp only [Option.some.injEq, Prod.mk.injEq] at hx
      rw [hx.1, hx.2]
    · rename_i hx
      rw [if_neg (by simp), h] at hx
      exact absurd hx (by simp)

theorem tableNamesFrom_cons {inWord : Bool} {c : Char} {s : Sql}
    (h : inWord = true ∨ Sql.splitTable (c :: s) = none) :
    tableNamesFrom inWord (c :: s) = tableNamesFrom (isWord c) s := by
  have hnone : (if inWord then none else Sql.splitTable (c :: s)) = none := by
    rcases h with rfl | h
    · rfl
    · rw [h, ite_self]
  rw [tableNamesFrom]
  split
  · rename_i hx
    rw [hnone] at hx
    exact absurd hx (by simp)
  · rfl

/-- Where no word character stands the scan goes on in the same way, whatever stood before. -/
theorem tableNamesFrom_flag {s : Sql} (h : endsWord s = true) (inWord inWord' : Bool) :
    tableNamesFrom inWord s = tableNamesFrom inWord' s := by
  cases s with
  | nil => rw [tableNamesFrom, tableNamesFrom]
  | cons c s =>
    have hnone : Sql.splitTable (c :: s) = none := by
      rw [Option.eq_none_iff_forall_ne_some]
      rintro ⟨name, rest⟩ hx
      obtain ⟨w, gap, hs, hw, -⟩ := splitTable_eq_some_iff.mp hx
      rw [hs, List.append_assoc, List.append_assoc, hw.not_endsWord] at h
      exact Bool.false_ne_true h
    rw [tableNamesFrom_cons (Or.inr hnone), tableNamesFrom_cons (Or.inr hnone)]

/-- The names that the scan finds in `s`, which stands behind `pre`. -/
def namesBehind (pre s : Sql) : List Sql := tableNamesFrom (!beginsWord pre) s

/-- What the scan does at the start of `s`, which stands behind `pre`. -/
inductive ScanStep (pre : Sql) : Sql → Prop
  /-- The text is read. -/
  | stop : ScanStep pre []
  /-- A reference stands here. Its name is found, and the scan goes on behind it. -/
  | found {s w gap name rest : Sql} (ref : TableRef (pre ++ s) pre w gap name rest)
      (shorter : rest.length < s.length)
      (names : namesBehind pre s = name :: namesBehind (pre ++ (w ++ gap ++ name)) rest) :
      ScanStep pre s
  /-- No reference stands here. The scan goes on behind the next character. -/
  | pass {c : Char} {s : Sql}
      (none : ∀ w gap name rest, ¬ TableRef (pre ++ c :: s) pre w gap name rest)
      (names : namesBehind pre (c :: s) = namesBehind (pre ++ [c]) s) : ScanStep pre (c :: s)

theorem scanStep (pre s : Sql) : ScanStep pre s := by
  by_cases hx : beginsWord pre = true ∧ ∃ nr, s.splitTable = some nr
  · obtain ⟨hb, ⟨name, rest⟩, hx⟩ := hx
    obtain ⟨w, gap, hcut, hw, hne, hg, hrun⟩ := splitTable_eq_some_iff.mp hx
    refine .found ⟨by rw [hcut], hw, hb, hne, hg, hrun⟩ (splitTable_length_lt hx) ?_
    unfold namesBehind
    rw [hb, Bool.not_true, tableNamesFrom_of_splitTable hx,
      tableNamesFrom_flag hrun.endsWord true (!beginsWord (pre ++ (w ++ gap ++ name)))]
  · cases s with
    | nil => exact .stop
    | cons c s =>
      refine .pass (fun w gap name rest href => hx ⟨href.begins, (name, rest), ?_⟩) ?_
      · have hs := href.text
        rw [List.append_cancel_left_eq] at hs
        rw [hs]
        exact href.splitTable
      · have hstep : (!beginsWord pre) = true ∨ Sql.splitTable (c :: s) = none := by
          cases hb : beginsWord pre with
          | false => exact Or.inl rfl
          | true =>
            exact Or.inr (Option.eq_none_iff_forall_ne_some.mpr fun nr h => hx ⟨hb, nr, h⟩)
        unfold namesBehind
        rw [tableNamesFrom_cons hstep, beginsWord_concat, Bool.not_not]

/-! ## Every name found stands at a place -/

theorem exists_tableRef_behind {t : Sql} {n : Sql} : ∀ (s pre : Sql), t = pre ++ s →
    n ∈ namesBehind pre s → ∃ before w gap after, TableRef t before w gap n after := by
  intro s
  induction hlen : s.length using Nat.strong_induction_on generalizing s with
  | _ len ih =>
    intro pre ht hmem
    cases scanStep pre s with
    | stop =>
      unfold namesBehind at hmem
      rw [tableNamesFrom] at hmem
      exact absurd hmem List.not_mem_nil
    | @found _ w gap name rest href hlt hnames =>
      rw [← ht] at href
      rw [hnames] at hmem
      rcases List.mem_cons.mp hmem with rfl | hmem
      · exact ⟨pre, w, gap, rest, href⟩
      · exact ih rest.length (by omega) rest rfl _
          (by rw [href.text]; simp only [List.append_assoc]) hmem
    | @pass c s' _ hnames =>
      rw [hnames] at hmem
      exact ih s'.length (by rw [← hlen]; simp) s' rfl (pre ++ [c]) (by rw [ht]; simp) hmem

/-- Every name that the scan finds stands behind `FROM` or `JOIN`. -/
theorem exists_tableRef {s n : Sql} (h : n ∈ tableNamesFrom false s) :
    ∃ before w gap after, TableRef s before w gap n after :=
  exists_tableRef_behind s [] rfl h

/-! ## Every place is found or swallowed -/

/-- **Two references overlap only in a keyword that ends a name.** A reference that begins later
lies behind the name of the first, or its keyword is the end of that name. -/
theorem overlap {t pre w gap name rest b w' gap' name' after : Sql}
    (h : TableRef t pre w gap name rest) (h' : TableRef t (pre ++ b) w' gap' name' after)
    (hb : b ≠ []) :
    (∃ b', b = w ++ gap ++ name ++ b') ∨
      ∃ x, b = w ++ gap ++ x ∧ name = x ++ w' ∧ rest = gap' ++ name' ++ after := by
  have hs : w ++ (gap ++ (name ++ rest)) = b ++ (w' ++ gap' ++ name' ++ after) := by
    have hcut := h.text.symm.trans h'.text
    rw [List.append_assoc pre, List.append_cancel_left_eq] at hcut
    simpa only [List.append_assoc] using hcut
  rcases List.append_eq_append_iff.mp hs with ⟨b₁, rfl, hs₁⟩ | ⟨y, hy, -⟩
  · obtain ⟨b₂, rfl, hs₂⟩ := place_behind_gap h.blank hs₁ h'.not_endsWord
    rcases List.append_eq_append_iff.mp hs₂ with ⟨b₃, rfl, -⟩ | ⟨x, hx, hs₃⟩
    · exact Or.inl ⟨b₃, by simp only [List.append_assoc]⟩
    · -- the keyword is the longest run at a place inside the name, so it is the name's end
      have hchars : ∀ c ∈ x, isNameChar c = true := fun c hc =>
        h.run.chars c (by rw [hx]; exact List.mem_append_right _ hc)
      have hgap : ∀ c ∈ (gap' ++ name' ++ after).head?, isNameChar c = false := by
        obtain ⟨d, gap₁, rfl⟩ := List.exists_cons_of_ne_nil h'.gap_ne
        intro c hc
        simp only [List.cons_append, List.head?_cons, Option.mem_def, Option.some.injEq] at hc
        exact isNameChar_of_isBlank (h'.blank c (by rw [hc]; exact List.mem_cons_self))
      have hleft := takeWhile_run hchars h.run.ends
      have hright := takeWhile_run (fun c hc => isNameChar_of_isWord (h'.lead.isWord c hc)) hgap
      have hcut : w' ++ (gap' ++ name' ++ after) = x ++ rest := by
        rw [← hs₃]; simp only [List.append_assoc]
      have hxw : x = w' := by rw [← hleft, ← hright, hcut]
      subst hxw
      rw [List.append_cancel_left_eq] at hcut
      exact Or.inr ⟨b₂, (List.append_assoc ..).symm, hx, hcut.symm⟩
  · have hbegins : beginsWord b = true := beginsWord_of_append h'.begins
    exact absurd (eq_nil_of_beginsWord (hy ▸ h.lead.isWord) hbegins) hb

theorem mem_or_swallowed_behind {t w gap n after : Sql} : ∀ (s pre b : Sql), t = pre ++ s →
    TableRef t (pre ++ b) w gap n after → n ∈ namesBehind pre s ∨
      ∃ before' w' gap' x, pre ++ b = before' ++ (w' ++ gap' ++ x) ∧
        TableRef t before' w' gap' (x ++ w) (gap ++ n ++ after) ∧ x ++ w ∈ namesBehind pre s := by
  intro s
  induction hlen : s.length using Nat.strong_induction_on generalizing s with
  | _ len ih =>
    intro pre b ht href
    cases scanStep pre s with
    | stop =>
      have hs := href.text
      rw [ht, List.append_assoc, List.append_cancel_left_eq] at hs
      exact absurd hs (by simp [href.lead.ne_nil])
    | @found _ w₀ gap₀ name rest href₀ hlt hnames =>
      rw [← ht] at href₀
      rw [hnames]
      by_cases hbn : b = []
      · subst hbn
        rw [List.append_nil] at href
        have hcut := href₀.text.symm.trans href.text
        rw [List.append_cancel_left_eq] at hcut
        have hsplit := href₀.splitTable
        rw [hcut, href.splitTable] at hsplit
        simp only [Option.some.injEq, Prod.mk.injEq] at hsplit
        exact Or.inl (by rw [hsplit.1]; exact List.mem_cons_self)
      · rcases overlap href₀ href hbn with ⟨b', rfl⟩ | ⟨x, rfl, rfl, rfl⟩
        · have hpre : pre ++ (w₀ ++ gap₀ ++ name ++ b') = pre ++ (w₀ ++ gap₀ ++ name) ++ b' := by
            simp only [List.append_assoc]
          rw [hpre] at href ⊢
          refine (ih rest.length (by omega) rest rfl _ b' ?_ href).imp
            (List.mem_cons_of_mem _) ?_
          · rw [href₀.text]; simp only [List.append_assoc]
          · rintro ⟨before', w', gap', x, hb, href', hmem⟩
            exact ⟨before', w', gap', x, hb, href', List.mem_cons_of_mem _ hmem⟩
        · exact Or.inr ⟨pre, w₀, gap₀, x, rfl, href₀, List.mem_cons_self⟩
    | @pass c s' hnone hnames =>
      rw [hnames]
      cases b with
      | nil =>
        rw [List.append_nil, ht] at href
        exact absurd href (hnone w gap n after)
      | cons d b =>
        have hcut := ht.symm.trans href.text
        rw [List.append_assoc, List.append_cancel_left_eq, List.cons_append,
          List.cons.injEq] at hcut
        obtain ⟨rfl, -⟩ := hcut
        rw [List.append_cons pre c b] at href ⊢
        exact ih s'.length (by rw [← hlen]; simp) s' rfl (pre ++ [c]) b (by rw [ht]; simp) href

/-- **Every name at a place is found, or its keyword is the end of a name that is found.** -/
theorem mem_or_swallowed {s before w gap n after : Sql} (h : TableRef s before w gap n after) :
    n ∈ tableNamesFrom false s ∨
      ∃ before' w' gap' x, before = before' ++ (w' ++ gap' ++ x) ∧
        TableRef s before' w' gap' (x ++ w) (gap ++ n ++ after) ∧ x ++ w ∈ tableNamesFrom false s :=
  mem_or_swallowed_behind s [] before rfl h

/-! ## Names in lower case -/

/-- Lower-casing goes on behind a text as it would with that text in front. -/
theorem lowerAfter_append (b : List Char) : ∀ (a before : List Char),
    ∃ y, lowerAfter before (a ++ b) = y ++ lowerAfter (a.reverse ++ before) b
  | [], before => ⟨[], rfl⟩
  | c :: a, before => by
    obtain ⟨y, hy⟩ := lowerAfter_append b a (c :: before)
    have hrev : (c :: a).reverse ++ before = a.reverse ++ c :: before := by simp
    rw [List.cons_append, lowerAfter, hrev, hy]
    split
    · exact ⟨_ :: y, rfl⟩
    · split
      · exact ⟨_ :: _ :: y, rfl⟩
      · exact ⟨_ :: y, rfl⟩

/-- The letters of `FROM` and `JOIN`. No character folds to one of them but the letter itself in
either case. -/
def leadLetters : List Char := ['f', 'r', 'o', 'm', 'j', 'i', 'n']

theorem lower_of_foldLetter {c : Char} (h : foldLetter c ∈ leadLetters) :
    lowerChar c = foldLetter c ∧ c ≠ 'Σ' ∧ c ≠ 'İ' := by
  have hupper : ∀ n < 91, 65 ≤ n → lowerIn lowerRuns n = n + 32 := by decide
  have hlower : ∀ c ∈ leadLetters, lowerChar c = c ∧ c ≠ 'Σ' ∧ c ≠ 'İ' := by decide
  rcases foldLetter_cases c with ⟨h65, h90⟩ | rfl | rfl | he
  · refine ⟨?_, ?_, ?_⟩
    · have hAZ : 'A' ≤ c ∧ c ≤ 'Z' :=
        ⟨UInt32.le_iff_toNat_le.mpr h65, UInt32.le_iff_toNat_le.mpr h90⟩
      unfold lowerChar foldLetter
      rw [hupper _ (by omega) h65, if_pos hAZ]
    · rintro rfl; exact absurd h90 (by decide)
    · rintro rfl; exact absurd h90 (by decide)
  · exact absurd h (by decide)
  · exact absurd h (by decide)
  · rw [he] at h ⊢
    exact hlower c h

theorem lowerAfter_spells {k : Keyword} {w : List Char} (h : Spells k w)
    (hk : ∀ c ∈ k, c ∈ leadLetters) : ∀ before, lowerAfter before w = k := by
  unfold Spells at h
  induction w generalizing k with
  | nil => exact fun _ => h
  | cons c w ih =>
    intro before
    rw [← h] at hk
    obtain ⟨hl, hs, hi⟩ := lower_of_foldLetter (hk _ List.mem_cons_self)
    rw [lowerAfter, if_neg hs, if_neg hi, hl,
      ih rfl (fun d hd => hk d (List.mem_cons_of_mem _ hd)), ← h]
    rfl

/-- A name that ends in the word `FROM` or `JOIN` still does without backticks and in lower case. -/
theorem tableName_suffix {x w : Sql} (h : SpellsLead w) :
    fromWord <:+ tableName (x ++ w) ∨ joinWord <:+ tableName (x ++ w) := by
  have hw : w.filter (· != '\x60') = w := by
    refine List.filter_eq_self.mpr fun c hc => ?_
    have hword := h.isWord c hc
    simp only [bne_iff_ne, ne_eq]
    rintro rfl
    exact absurd hword (by decide)
  unfold tableName lower
  rw [List.filter_append, hw]
  obtain ⟨y, hy⟩ := lowerAfter_append w (x.filter (· != '\x60')) []
  rw [hy]
  rcases h with h | h
  · rw [lowerAfter_spells h (by decide)]
    exact Or.inl (List.suffix_append ..)
  · rw [lowerAfter_spells h (by decide)]
    exact Or.inr (List.suffix_append ..)

/-- **The scan sees every place.** Unless an allow-listed name ends in `from` or `join`, the names
that the scan finds are allow-listed iff the names at all places are. -/
theorem allowed_iff_everywhere {a : AllowList}
    (ha : ∀ t ∈ a.tables, ¬ fromWord <:+ t ∧ ¬ joinWord <:+ t) (s : Sql) :
    (∀ t ∈ s.tableNames, a.contains t = true) ↔
      ∀ before w gap name after, TableRef s before w gap name after →
        a.contains (tableName name) = true := by
  rw [tableNames_eq]
  simp only [List.mem_map, forall_exists_index, and_imp, forall_apply_eq_imp_iff₂]
  constructor
  · intro h before w gap name after href
    rcases mem_or_swallowed href with hmem | ⟨before', w', gap', x, -, href', hmem⟩
    · exact h name hmem
    · have hin := (AllowList.contains_iff _ _).mp (h _ hmem)
      rcases tableName_suffix (x := x) href.lead with hsuf | hsuf
      · exact absurd hsuf (ha _ hin).1
      · exact absurd hsuf (ha _ hin).2
  · intro h n hn
    obtain ⟨before, w, gap, after, href⟩ := exists_tableRef hn
    exact h before w gap n after href

end QueryGate.Sql
