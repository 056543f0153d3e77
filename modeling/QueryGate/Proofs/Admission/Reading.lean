import QueryGate.Admission.Scan
import QueryGate.Proofs.Text.Words

/-!
# What the tests of admission say

Each test of `Admission.Scan` holds iff the text can be cut in a certain way. The cuts name no order
of search, so they say at once what every place of an admitted statement looks like.

* `SecondStatement`, `Forbidden`: a semicolon with more behind it, and a command nobody may run.
* `LimitIn`: the word `LIMIT`, blanks and a digit somewhere in the text.
* `SpellsLead w`: `w` is the word `FROM` or `JOIN`. `NameRun name rest`: `name` is the longest run
  of characters of table names in front of `rest`.

Results: `hasSecondStatement_iff`, `hasForbidden_iff`, `hasLimit_iff`, `splitExplain_eq_some_iff`
and `splitTable_eq_some_iff`.
-/

namespace QueryGate.Sql

open Text

/-! ## Separators -/

/-- A semicolon is followed, after optional blanks, by another character. -/
def SecondStatement (s : Sql) : Prop :=
  ∃ before gap c after, s = before ++ ';' :: (gap ++ c :: after) ∧ AllBlank gap ∧ isBlank c = false

theorem any_not_isBlank_iff {s : Sql} : s.any (!isBlank ·) = true ↔
    ∃ gap c after, s = gap ++ c :: after ∧ AllBlank gap ∧ isBlank c = false := by
  constructor
  · intro h
    obtain ⟨gap, hg, hs⟩ := trimStart_split s
    have hstart := startsBlank_trimStart s
    cases ht : trimStart s with
    | nil =>
      rw [ht, List.append_nil] at hs
      obtain ⟨c, hc, hn⟩ := List.any_eq_true.mp h
      rw [hs] at hc
      rw [hg c hc] at hn
      exact absurd hn Bool.false_ne_true
    | cons c after =>
      rw [ht] at hs hstart
      exact ⟨gap, c, after, hs, hg, hstart⟩
  · rintro ⟨gap, c, after, rfl, -, hc⟩
    exact List.any_eq_true.mpr ⟨c, by simp, by rw [hc]; rfl⟩

theorem hasSecondStatement_iff {s : Sql} :
    s.hasSecondStatement = true ↔ SecondStatement s := by
  induction s with
  | nil =>
    constructor
    · intro h; exact absurd h Bool.false_ne_true
    · rintro ⟨before, gap, c, after, hs, -⟩; exact absurd hs (by simp)
  | cons c s ih =>
    rw [hasSecondStatement, Bool.or_eq_true, Bool.and_eq_true, beq_iff_eq, any_not_isBlank_iff, ih]
    constructor
    · rintro (⟨rfl, gap, d, after, rfl, hg, hd⟩ | ⟨before, gap, d, after, rfl, hg, hd⟩)
      · exact ⟨[], gap, d, after, rfl, hg, hd⟩
      · exact ⟨c :: before, gap, d, after, rfl, hg, hd⟩
    · rintro ⟨before, gap, d, after, hs, hg, hd⟩
      cases before with
      | nil =>
        simp only [List.nil_append, List.cons.injEq] at hs
        exact Or.inl ⟨hs.1, gap, d, after, hs.2, hg, hd⟩
      | cons b before =>
        simp only [List.cons_append, List.cons.injEq] at hs
        exact Or.inr ⟨before, gap, d, after, hs.2, hg, hd⟩

/-! ## Forbidden commands -/

/-- One of the commands that nobody may run occurs in the text as whole words. -/
def Forbidden (s : Sql) : Prop := ∃ command ∈ forbiddenCommands, PhraseIn command s

theorem proper_of_mem_forbidden : ∀ command ∈ forbiddenCommands, ProperPhrase command := by
  decide

theorem hasForbidden_iff {s : Sql} : s.hasForbidden = true ↔ Forbidden s := by
  unfold hasForbidden Forbidden
  rw [List.any_eq_true]
  refine exists_congr fun command => and_congr_right fun hmem => ?_
  exact containsPhrase_iff (proper_of_mem_forbidden command hmem)

/-! ## EXPLAIN, SELECT and LIMIT -/

theorem proper_explainWord : Proper explainWord := by decide
theorem proper_selectWord : Proper selectWord := by decide
theorem proper_limitWord : Proper limitWord := by decide
theorem proper_fromWord : Proper fromWord := by decide
theorem proper_joinWord : Proper joinWord := by decide

/-- **A leading `EXPLAIN`** is a whole word behind blanks; what it explains begins with no blank. -/
theorem splitExplain_eq_some_iff {s keyword inner : Sql} :
    s.splitExplain = some (keyword, inner) ↔
      ∃ lead gap, s = lead ++ keyword ++ gap ++ inner ∧ AllBlank lead ∧
        Spells explainWord keyword ∧ AllBlank gap ∧ startsBlank inner = false ∧
        endsWord (gap ++ inner) = true := by
  have hopen : s.splitExplain = some (keyword, inner) ↔ ∃ rest,
      stripWord? explainWord (trimStart s) = some rest ∧
        (trimStart s).take explainWord.length = keyword ∧ trimStart rest = inner := by
    unfold splitExplain
    dsimp only
    cases stripWord? explainWord (trimStart s) <;> simp
  rw [hopen]
  constructor
  · rintro ⟨rest, hr, rfl, rfl⟩
    obtain ⟨w, hw, ht, he⟩ := stripWord?_eq_some_iff.mp hr
    obtain ⟨lead, hl, hs⟩ := trimStart_split s
    obtain ⟨gap, hg, hi⟩ := trimStart_split rest
    rw [ht, ← hw.length_eq, List.take_left' rfl]
    refine ⟨lead, gap, ?_, hl, hw, hg, startsBlank_trimStart rest, by rwa [← hi]⟩
    rw [List.append_assoc, List.append_assoc, ← hi, ← ht]
    exact hs
  · rintro ⟨lead, gap, rfl, hl, hw, hg, hi, he⟩
    have ht : trimStart (lead ++ keyword ++ gap ++ inner) = keyword ++ (gap ++ inner) := by
      rw [List.append_assoc, List.append_assoc]
      exact trimStart_eq_of_split hl (hw.startsBlank proper_explainWord _)
    rw [ht, ← hw.length_eq, List.take_left' rfl]
    exact ⟨gap ++ inner, stripWord?_eq_some_iff.mpr ⟨keyword, hw, rfl, he⟩, rfl,
      trimStart_eq_of_split hg hi⟩

theorem splitExplain_eq_none_iff {s : Sql} (hs : startsBlank s = false) :
    s.splitExplain = none ↔ startsWord explainWord s = false := by
  unfold splitExplain startsWord
  dsimp only
  rw [trimStart_of_startsBlank hs]
  cases stripWord? explainWord s <;> simp

theorem startsSelect_eq {s : Sql} (hs : startsBlank s = false) :
    s.startsSelect = startsWord selectWord s := by
  unfold startsSelect
  rw [trimStart_of_startsBlank hs]

/-- The word `LIMIT`, blanks and a digit stand behind `before`, where a word may begin. -/
structure LimitAt (s before : Sql) : Prop where
  begins : beginsWord before = true
  cut : ∃ w gap d after, s = before ++ (w ++ gap ++ d :: after) ∧ Spells limitWord w ∧ gap ≠ [] ∧
    AllBlank gap ∧ isDigit d = true

/-- The text has a limit, at whatever level. -/
def LimitIn (s : Sql) : Prop := ∃ before, LimitAt s before

theorem not_isBlank_of_isDigit {c : Char} (h : isDigit c = true) : isBlank c = false := by
  have hall : ∀ n ∈ blankPoints, digitRanges.contains n = false := by decide
  cases hb : isBlank c with
  | false => rfl
  | true =>
    unfold isDigit at h
    rw [hall _ (mem_blankPoints hb)] at h
    exact absurd h Bool.false_ne_true

theorem startsLimit_iff {s : Sql} : s.startsLimit = true ↔
    ∃ w gap d after, s = w ++ gap ++ d :: after ∧ Spells limitWord w ∧ gap ≠ [] ∧ AllBlank gap ∧
      isDigit d = true := by
  have hopen : s.startsLimit = true ↔ ∃ rest, stripKeyword? limitWord s = some rest ∧
      startsBlank rest = true ∧ ∃ d after, trimStart rest = d :: after ∧ isDigit d = true := by
    unfold startsLimit
    cases stripKeyword? limitWord s with
    | none => simp
    | some rest => cases ht : trimStart rest <;> simp [ht]
  rw [hopen]
  constructor
  · rintro ⟨rest, hr, hb, d, after, ht, hd⟩
    obtain ⟨w, hw, rfl⟩ := stripKeyword?_eq_some_iff.mp hr
    obtain ⟨gap, rfl, hne, hg, -⟩ := gap_iff.mp ⟨hb, ht⟩
    exact ⟨w, gap, d, after, (List.append_assoc ..).symm, hw, hne, hg, hd⟩
  · rintro ⟨w, gap, d, after, rfl, hw, hne, hg, hd⟩
    have hstart : startsBlank (d :: after) = false := not_isBlank_of_isDigit hd
    obtain ⟨hb, ht⟩ := gap_iff.mpr ⟨gap, rfl, hne, hg, hstart⟩
    exact ⟨gap ++ d :: after, stripKeyword?_eq_some_iff.mpr ⟨w, hw, List.append_assoc ..⟩, hb, d,
      after, ht, hd⟩

theorem hasLimit_iff {s : Sql} : s.hasLimit = true ↔ LimitIn s := by
  unfold hasLimit
  rw [show false = !beginsWord [] from rfl, anyWordStart_iff]
  constructor
  · rintro ⟨before, rest, rfl, -, hb, hp⟩
    obtain ⟨w, gap, d, after, rfl, h⟩ := startsLimit_iff.mp hp
    exact ⟨before, hb, w, gap, d, after, rfl, h⟩
  · rintro ⟨before, hb, w, gap, d, after, rfl, h⟩
    exact ⟨before, _, rfl, by simp, hb, startsLimit_iff.mpr ⟨w, gap, d, after, rfl, h⟩⟩

/-! ## Tables -/

/-- `w` is the word `FROM` or `JOIN` in some case. -/
def SpellsLead (w : Sql) : Prop := Spells fromWord w ∨ Spells joinWord w

instance (w : Sql) : Decidable (SpellsLead w) :=
  inferInstanceAs (Decidable (Spells fromWord w ∨ Spells joinWord w))

theorem SpellsLead.isWord {w : Sql} (h : SpellsLead w) : ∀ c ∈ w, isWord c = true :=
  h.elim (fun h => h.isWord proper_fromWord) fun h => h.isWord proper_joinWord

theorem SpellsLead.ne_nil {w : Sql} (h : SpellsLead w) : w ≠ [] :=
  h.elim (fun h => h.ne_nil proper_fromWord) fun h => h.ne_nil proper_joinWord

theorem isNameChar_of_isWord {c : Char} (h : isWord c = true) : isNameChar c = true := by
  unfold isNameChar
  rw [h, Bool.true_or]

theorem isNameChar_of_isBlank {c : Char} (h : isBlank c = true) : isNameChar c = false := by
  unfold isNameChar
  rw [isWord_of_isBlank h, Bool.false_or, beq_eq_false_iff_ne]
  rintro rfl
  exact absurd h (by decide)

/-- The longest run of characters of table names in front of `rest` is `name`. -/
structure NameRun (name rest : Sql) : Prop where
  ne_nil : name ≠ []
  chars : ∀ c ∈ name, isNameChar c = true
  ends : ∀ c ∈ rest.head?, isNameChar c = false

theorem NameRun.startsBlank {name rest : Sql} (h : NameRun name rest) :
    startsBlank (name ++ rest) = false := by
  obtain ⟨c, name', rfl⟩ := List.exists_cons_of_ne_nil h.ne_nil
  have hc := h.chars c List.mem_cons_self
  cases hb : isBlank c with
  | false => exact hb
  | true => rw [isNameChar_of_isBlank hb] at hc; exact absurd hc Bool.false_ne_true

theorem nameRun_iff {s name rest : Sql} :
    s.takeWhile isNameChar = name ∧ s.dropWhile isNameChar = rest ∧ name ≠ [] ↔
      s = name ++ rest ∧ NameRun name rest := by
  constructor
  · rintro ⟨rfl, rfl, hne⟩
    refine ⟨List.takeWhile_append_dropWhile.symm, hne, fun c hc => List.mem_takeWhile_imp hc, ?_⟩
    intro c hc
    simpa [Option.mem_def.mp hc] using List.head?_dropWhile_not isNameChar s
  · rintro ⟨rfl, h⟩
    exact ⟨takeWhile_run h.chars h.ends, dropWhile_run h.chars h.ends, h.ne_nil⟩

theorem lead_iff {s rest : Sql} :
    (stripWord? fromWord s).or (stripWord? joinWord s) = some rest ↔
      ∃ w, SpellsLead w ∧ s = w ++ rest ∧ endsWord rest = true := by
  rw [Option.or_eq_some_iff]
  constructor
  · rintro (h | ⟨-, h⟩)
    · obtain ⟨w, hw, hs, he⟩ := stripWord?_eq_some_iff.mp h
      exact ⟨w, Or.inl hw, hs, he⟩
    · obtain ⟨w, hw, hs, he⟩ := stripWord?_eq_some_iff.mp h
      exact ⟨w, Or.inr hw, hs, he⟩
  · rintro ⟨w, hw | hw, hs, he⟩
    · exact Or.inl (stripWord?_eq_some_iff.mpr ⟨w, hw, hs, he⟩)
    · have hj := stripWord?_eq_some_iff.mpr ⟨w, hw, hs, he⟩
      refine Or.inr ⟨Option.eq_none_iff_forall_ne_some.mpr fun t ht => ?_, hj⟩
      have : fromWord = joinWord := stripWord?_unique proper_fromWord proper_joinWord ht hj
      exact absurd this (by decide)

/-- **A name behind `FROM` or `JOIN`** is read where the text has the whole word, a gap and a
longest run of characters of table names. -/
theorem splitTable_eq_some_iff {s name rest : Sql} :
    s.splitTable = some (name, rest) ↔
      ∃ w gap, s = w ++ gap ++ name ++ rest ∧ SpellsLead w ∧ gap ≠ [] ∧ AllBlank gap ∧
        NameRun name rest := by
  have hopen : s.splitTable = some (name, rest) ↔ ∃ t,
      (stripWord? fromWord s).or (stripWord? joinWord s) = some t ∧ startsBlank t = true ∧
        (trimStart t).takeWhile isNameChar = name ∧ (trimStart t).dropWhile isNameChar = rest ∧
        name ≠ [] := by
    unfold splitTable
    cases (stripWord? fromWord s).or (stripWord? joinWord s) with
    | none => simp
    | some t =>
      simp only [Option.some.injEq, exists_eq_left']
      cases startsBlank t with
      | false => simp
      | true =>
        simp only [if_true, true_and]
        by_cases hn : (trimStart t).takeWhile isNameChar = []
        · rw [hn]
          exact ⟨fun h => absurd h (by simp), fun ⟨h, _, hne⟩ => absurd h.symm hne⟩
        · rw [if_neg (by simpa using hn), Option.some.injEq, Prod.mk.injEq]
          exact ⟨fun ⟨h1, h2⟩ => ⟨h1, h2, h1 ▸ hn⟩, fun ⟨h1, h2, _⟩ => ⟨h1, h2⟩⟩
  rw [hopen]
  constructor
  · rintro ⟨t, ht, hb, hname⟩
    obtain ⟨hsplit, hrun⟩ := nameRun_iff.mp hname
    obtain ⟨gap, rfl, hne, hg, -⟩ := gap_iff.mp ⟨hb, hsplit⟩
    obtain ⟨w, hw, rfl, -⟩ := lead_iff.mp ht
    exact ⟨w, gap, by simp only [List.append_assoc], hw, hne, hg, hrun⟩
  · rintro ⟨w, gap, rfl, hw, hne, hg, hrun⟩
    obtain ⟨hb, ht⟩ := gap_iff.mpr ⟨gap, rfl, hne, hg, hrun.startsBlank⟩
    refine ⟨gap ++ (name ++ rest), ?_, hb, nameRun_iff.mpr ⟨ht, hrun⟩⟩
    exact lead_iff.mpr
      ⟨w, hw, by simp only [List.append_assoc], endsWord_of_startsBlank hb⟩

end QueryGate.Sql
