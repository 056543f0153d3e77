import QueryGate.Proofs.Admission.Reading

/-!
# Statements behind EXPLAIN

An explained statement is a core behind any number of `EXPLAIN`s. `Layers heads s c` lists the
`EXPLAIN`s of `s` as they are written, each with the blanks behind it, down to the core `c`, which
begins neither with a blank nor with a further `EXPLAIN`.

* `Layers.exists_of_startsBlank`, `Layers.unique`: a text that begins with no blank has layers, and
  only in one way.
* `Front front rest`: `front` consists of blanks and `EXPLAIN`s before `rest`. `Front.place` and
  `Front.begins`: a word other than `EXPLAIN` begins in `front ++ rest` exactly where it begins in
  `rest`. So a forbidden command or a limit stands in the whole text iff it stands in the core
  (`Front.forbidden_iff`, `Front.limitAt_iff`).
-/

namespace QueryGate.Sql

open Text

/-- The text `s` is the core `c` behind the `EXPLAIN`s of `heads`, each with its blanks behind. -/
inductive Layers : List (Sql × Sql) → Sql → Sql → Prop
  | core {c : Sql} (starts : startsBlank c = false) (plain : startsWord explainWord c = false) :
      Layers [] c c
  | explain {k w s c : Sql} {heads : List (Sql × Sql)} (spells : Spells explainWord k)
      (blank : AllBlank w) (starts : startsBlank s = false) (whole : endsWord (w ++ s) = true)
      (inner : Layers heads s c) : Layers ((k, w) :: heads) (k ++ w ++ s) c

/-- The text of the `EXPLAIN`s. -/
def headText : List (Sql × Sql) → Sql
  | [] => []
  | (k, w) :: heads => k ++ w ++ headText heads

section Layers

variable {heads : List (Sql × Sql)} {s c : Sql}

theorem Layers.text (h : Layers heads s c) : s = headText heads ++ c := by
  induction h with
  | core => rfl
  | explain _ _ _ _ _ ih => rw [headText, List.append_assoc (_ ++ _), ← ih]

theorem Layers.startsBlank (h : Layers heads s c) : startsBlank s = false := by
  cases h with
  | core hb => exact hb
  | explain hk _ _ _ _ => rw [List.append_assoc]; exact hk.startsBlank proper_explainWord _

theorem Layers.startsBlank_core (h : Layers heads s c) : Text.startsBlank c = false := by
  induction h with
  | core hb => exact hb
  | explain _ _ _ _ _ ih => exact ih

theorem Layers.plain_core (h : Layers heads s c) : startsWord explainWord c = false := by
  induction h with
  | core _ hp => exact hp
  | explain _ _ _ _ _ ih => exact ih

theorem Layers.spells_of_mem (h : Layers heads s c) :
    ∀ kw ∈ heads, Spells explainWord kw.1 ∧ AllBlank kw.2 := by
  induction h with
  | core => exact fun _ hm => absurd hm List.not_mem_nil
  | explain hk hw _ _ _ ih => exact List.forall_mem_cons.mpr ⟨⟨hk, hw⟩, ih⟩

/-- The inner statement of a text with layers is what `splitExplain` gives. -/
theorem Layers.splitExplain_explain {k w : Sql} (hk : Spells explainWord k) (hw : AllBlank w)
    (hs : Text.startsBlank s = false) (he : endsWord (w ++ s) = true) :
    Sql.splitExplain (k ++ w ++ s) = some (k, s) :=
  splitExplain_eq_some_iff.mpr ⟨[], w, rfl, allBlank_nil, hk, hw, hs, he⟩

/-- **Every text that begins with no blank has layers.** -/
theorem Layers.exists_of_startsBlank (s : Sql) (hs : Text.startsBlank s = false) :
    ∃ heads c, Layers heads s c := by
  induction hn : s.length using Nat.strong_induction_on generalizing s with
  | _ n ih =>
    cases hx : s.splitExplain with
    | none => exact ⟨[], s, .core hs ((splitExplain_eq_none_iff hs).mp hx)⟩
    | some ki =>
      obtain ⟨k, i⟩ := ki
      have hlt := splitExplain_length_lt hx
      obtain ⟨lead, gap, hcut, hl, hk, hg, hi, he⟩ := splitExplain_eq_some_iff.mp hx
      obtain ⟨heads, c, hc⟩ := ih i.length (by omega) i hi rfl
      -- the text begins with no blank, so nothing stands before the keyword
      have hlead : lead = [] := by
        by_contra hne
        obtain ⟨b, lead, rfl⟩ := List.exists_cons_of_ne_nil hne
        rw [hcut] at hs
        exact absurd ((hl b List.mem_cons_self).symm.trans hs) (by decide)
      rw [hcut, hlead, List.nil_append]
      exact ⟨(k, gap) :: heads, c, .explain hk hg hi he hc⟩

/-- **The layers of a text are unique.** -/
theorem Layers.unique {heads' : List (Sql × Sql)} {c' : Sql} (h : Layers heads s c)
    (h' : Layers heads' s c') : heads = heads' ∧ c = c' := by
  induction h generalizing heads' c' with
  | core hb hp =>
    cases h' with
    | core => exact ⟨rfl, rfl⟩
    | explain hk hw hs he _ =>
      have := (splitExplain_eq_none_iff hb).mpr hp
      rw [Layers.splitExplain_explain hk hw hs he] at this
      exact absurd this (by simp)
  | @explain k w s c heads hk hw hs he hin ih =>
    generalize ht : k ++ w ++ s = t at h'
    cases h' with
    | core hb hp =>
      have := (splitExplain_eq_none_iff hb).mpr hp
      rw [← ht, Layers.splitExplain_explain hk hw hs he] at this
      exact absurd this (by simp)
    | @explain k' w' s' _ heads' hk' hw' hs' he' hin' =>
      have hsplit := Layers.splitExplain_explain hk hw hs he
      rw [ht, Layers.splitExplain_explain hk' hw' hs' he'] at hsplit
      simp only [Option.some.injEq, Prod.mk.injEq] at hsplit
      obtain ⟨rfl, rfl⟩ := hsplit
      obtain ⟨rfl, rfl⟩ := ih hin'
      have hww : w = w' := by simpa using ht
      rw [hww]
      exact ⟨rfl, rfl⟩

end Layers

/-! ## Words behind the EXPLAINs -/

/-- `front` consists of blanks and whole words `EXPLAIN` before `rest`. -/
inductive Front : Sql → Sql → Prop
  | nil (rest : Sql) : Front [] rest
  | blank {lead front rest : Sql} (blank : AllBlank lead) (more : Front front rest) :
      Front (lead ++ front) rest
  | explain {k w front rest : Sql} (spells : Spells explainWord k) (blank : AllBlank w)
      (whole : endsWord (w ++ (front ++ rest)) = true) (more : Front front rest) :
      Front (k ++ w ++ front) rest

theorem Layers.front {heads : List (Sql × Sql)} {s c trail : Sql} (h : Layers heads s c)
    (ht : AllBlank trail) : Front (headText heads) (c ++ trail) := by
  induction h with
  | core => exact .nil _
  | @explain k w s c heads hk hw _ he hin ih =>
    refine .explain hk hw ?_ ih
    have hcut : w ++ (headText heads ++ (c ++ trail)) = w ++ s ++ trail := by
      rw [hin.text]; simp only [List.append_assoc]
    rw [hcut]
    exact endsWord_both he (endsWord_of_allBlank ht)

theorem Layers.front_core {heads : List (Sql × Sql)} {s c : Sql} (h : Layers heads s c) :
    Front (headText heads) c := by
  have hf := h.front allBlank_nil
  rwa [List.append_nil] at hf

/-- The submitted text is the core of the trimmed text, with a front before it and blanks behind. -/
theorem Layers.front_of_trim {heads : List (Sql × Sql)} {sql c : Sql}
    (h : Layers heads (trim sql) c) : ∃ front trail, sql = front ++ (c ++ trail) ∧
      Front front (c ++ trail) ∧ AllBlank trail := by
  obtain ⟨lead, trail, hl, ht, hs⟩ := trim_split sql
  refine ⟨lead ++ headText heads, trail, ?_, .blank hl (h.front ht), ht⟩
  rw [h.text] at hs
  rw [hs]
  simp only [List.append_assoc]

section Front

variable {front rest : Sql}

theorem Front.chars (h : Front front rest) : ∀ c ∈ front, isBlank c = true ∨ isWord c = true := by
  induction h with
  | nil => exact fun _ hc => absurd hc List.not_mem_nil
  | blank hl _ ih =>
    intro c hc
    exact (List.mem_append.mp hc).elim (fun hc => Or.inl (hl c hc)) (ih c)
  | explain hk hw _ _ ih =>
    intro c hc
    rcases List.mem_append.mp hc with hc | hc
    · exact (List.mem_append.mp hc).elim (fun hc => Or.inr (hk.isWord proper_explainWord c hc))
        fun hc => Or.inl (hw c hc)
    · exact ih c hc

/-- Neither a separator nor a parenthesis stands in a front. -/
theorem Front.not_mem (h : Front front rest) {c : Char} (hb : isBlank c = false)
    (hw : isWord c = false) : c ∉ front := by
  intro hc
  rcases h.chars c hc with h | h
  · exact absurd (hb.symm.trans h) (by simp)
  · exact absurd (hw.symm.trans h) (by simp)

/-- **A word other than `EXPLAIN` begins behind the front.** -/
theorem Front.place (h : Front front rest) {before after : Sql}
    (hs : front ++ rest = before ++ after) (hb : beginsWord before = true)
    (he : endsWord after = false)
    (hx : startsWord explainWord after = false) :
    ∃ b, before = front ++ b ∧ rest = b ++ after := by
  induction h generalizing before with
  | nil => exact ⟨before, rfl, hs⟩
  | @blank lead front rest hl _ ih =>
    rw [List.append_assoc] at hs
    obtain ⟨b, rfl, hs'⟩ := place_behind_gap hl hs he
    obtain ⟨b, rfl, hr⟩ := ih hs' (beginsWord_of_append hb)
    exact ⟨b, (List.append_assoc ..).symm, hr⟩
  | @explain k w front rest hk hw hwhole _ ih =>
    rw [List.append_assoc, List.append_assoc] at hs
    rcases List.append_eq_append_iff.mp hs with ⟨b, rfl, hs'⟩ | ⟨y, hy, ha⟩
    · obtain ⟨b, rfl, hs''⟩ := place_behind_gap hw hs' he
      rw [← List.append_assoc] at hb
      obtain ⟨b, rfl, hr⟩ := ih hs'' (beginsWord_of_append hb)
      exact ⟨b, by simp only [List.append_assoc], hr⟩
    · -- inside the keyword only its first letter begins a word, and there the word is `EXPLAIN`
      have hnil := eq_nil_of_beginsWord (hy ▸ hk.isWord proper_explainWord) hb
      rw [hnil, List.nil_append] at hy
      have hstart : startsWord explainWord after = true :=
        startsWord_iff.mpr ⟨k, w ++ (front ++ rest), by rw [ha, hy], hk, hwhole⟩
      rw [hstart] at hx
      exact absurd hx.symm Bool.false_ne_true

/-- **Where a word begins in `rest`, one begins in the whole text.** -/
theorem Front.begins (h : Front front rest) {b after : Sql} (hr : rest = b ++ after)
    (hb : beginsWord b = true) (he : endsWord after = false) : beginsWord (front ++ b) = true := by
  induction h with
  | nil => exact hb
  | @blank lead front rest hl _ ih =>
    have hin := ih hr
    by_cases hn : front ++ b = []
    · rw [List.append_assoc, hn, List.append_nil]
      by_cases hlead : lead = []
      · rw [hlead]; rfl
      · exact beginsWord_of_gap [] hl hlead
    · rwa [List.append_assoc, beginsWord_append _ hn]
  | @explain k w front rest hk hw hwhole _ ih =>
    have hin := ih hr
    by_cases hn : front ++ b = []
    · rw [List.append_assoc, hn, List.append_nil]
      by_cases hgap : w = []
      · obtain ⟨rfl, rfl⟩ := List.append_eq_nil_iff.mp hn
        rw [hgap, hr] at hwhole
        rw [show endsWord after = true from hwhole] at he
        exact absurd he.symm Bool.false_ne_true
      · exact beginsWord_of_gap k hw hgap
    · rwa [List.append_assoc, beginsWord_append _ hn]

/-- Where another whole word stands there is no `EXPLAIN`. -/
theorem not_explain_of_stripWord? {k : Keyword} (hk : Proper k) (hne : k ≠ explainWord)
    {s t : Sql} (h : stripWord? k s = some t) : startsWord explainWord s = false := by
  unfold startsWord
  rw [Option.isSome_eq_false_iff, Option.isNone_iff_eq_none, Option.eq_none_iff_forall_ne_some]
  intro t' h'
  exact hne (stripWord?_unique hk proper_explainWord h h')

/-- A phrase that does not begin with `EXPLAIN` stands in the whole text iff it stands behind the
front. -/
theorem Front.phraseIn_iff (h : Front front rest) {k : Keyword} {ks : List Keyword}
    (hk : ProperPhrase (k :: ks)) (hne : k ≠ explainWord) :
    PhraseIn (k :: ks) (front ++ rest) ↔ PhraseIn (k :: ks) rest := by
  have hk' := hk.2 k List.mem_cons_self
  constructor
  · rintro ⟨before, body, after, hs, hbody, hb, he⟩
    obtain ⟨t, ht⟩ := hbody.stripWord? he
    rw [List.append_assoc] at hs
    obtain ⟨b, rfl, hr⟩ := h.place hs hb (hbody.not_endsWord hk' after)
      (not_explain_of_stripWord? hk' hne ht)
    exact ⟨b, body, after, by rwa [List.append_assoc], hbody, beginsWord_of_append hb, he⟩
  · rintro ⟨b, body, after, hr, hbody, hb, he⟩
    have hr' := hr
    rw [List.append_assoc] at hr'
    refine ⟨front ++ b, body, after, by rw [hr]; simp only [List.append_assoc], hbody, ?_, he⟩
    exact h.begins hr' hb (hbody.not_endsWord hk' after)

/-- A forbidden command stands in the whole text iff it stands behind the front. -/
theorem Front.forbidden_iff (h : Front front rest) :
    Forbidden (front ++ rest) ↔ Forbidden rest := by
  have hfirst : ∀ command ∈ forbiddenCommands, command.head? ≠ some explainWord := by decide
  refine exists_congr fun command => and_congr_right fun hmem => ?_
  have hproper := proper_of_mem_forbidden command hmem
  obtain ⟨k, ks, rfl⟩ := List.exists_cons_of_ne_nil hproper.1
  exact h.phraseIn_iff hproper fun hk => hfirst _ hmem (by rw [hk]; rfl)

/-- A limit stands in the whole text iff it stands behind the front. -/
theorem Front.limitAt_iff (h : Front front rest) {before : Sql} :
    LimitAt (front ++ rest) before ↔ ∃ b, before = front ++ b ∧ LimitAt rest b := by
  constructor
  · rintro ⟨hb, w, gap, d, after, hs, hw, hne, hg, hd⟩
    have hread : stripWord? limitWord (w ++ gap ++ d :: after) = some (gap ++ d :: after) :=
      stripWord?_eq_some_iff.mpr
        ⟨w, hw, List.append_assoc .., endsWord_of_gap hg hne _⟩
    have hstart : endsWord (w ++ gap ++ d :: after) = false := by
      rw [List.append_assoc]; exact hw.not_endsWord proper_limitWord _
    obtain ⟨b, rfl, hr⟩ := h.place hs hb hstart
      (not_explain_of_stripWord? proper_limitWord (by decide) hread)
    exact ⟨b, rfl, beginsWord_of_append hb, w, gap, d, after, hr, hw, hne, hg, hd⟩
  · rintro ⟨b, rfl, hb, w, gap, d, after, hr, hw, hne, hg, hd⟩
    have hstart : endsWord (w ++ gap ++ d :: after) = false := by
      rw [List.append_assoc]; exact hw.not_endsWord proper_limitWord _
    refine ⟨h.begins hr hb hstart, w, gap, d, after, ?_, hw, hne, hg, hd⟩
    rw [hr]
    simp only [List.append_assoc]

end Front

end QueryGate.Sql
