import QueryGate.Proofs.Text.Blanks

/-!
# Whole words at a place in a text

A *place* in a text `s` is a cut `s = before ++ after`. The scanning functions of `Text.Keyword`
walk over the places from left to right. Here each of them is said to find something iff some place
has a property that mentions no order of search.

* `Spells k w`: `w` is the keyword `k` in some letter case.
* `beginsWord before`: no word character stands just before the place, so a word may begin there.
* `Phrase ks body`: `body` is the keywords of `ks`, each in some case, with blanks between them.

Results:
* `stripWord?_eq_some_iff`, `startsWord_iff`, `startsPhrase_iff`: what is read at one place.
* `anyWordStart_iff`, `containsPhrase_iff`: a search finds something iff some place has it.
* `spells_takeWhile`, `stripWord?_unique`: a whole word is the longest run of word characters at its
  place, so at one place there is at most one.
* `WholeWord.of_append`, `PhraseIn.of_append`: what is put behind a gap makes no new word in front
  of it, and no phrase unless it has the last keyword.
-/

namespace QueryGate.Text

/-! ## Keywords in some case -/

/-- `w` is the keyword `k` in some letter case. -/
def Spells (k : Keyword) (w : List Char) : Prop := w.map foldLetter = k

instance (k : Keyword) (w : List Char) : Decidable (Spells k w) :=
  inferInstanceAs (Decidable (w.map foldLetter = k))

/-- A keyword of at least one letter, all of them lower-case letters of ASCII. -/
def Proper (k : Keyword) : Prop := k ≠ [] ∧ ∀ c ∈ k, 97 ≤ c.toNat ∧ c.toNat ≤ 122

instance (k : Keyword) : Decidable (Proper k) :=
  inferInstanceAs (Decidable (k ≠ [] ∧ ∀ c ∈ k, 97 ≤ c.toNat ∧ c.toNat ≤ 122))

theorem foldLetter_cases (c : Char) :
    (65 ≤ c.toNat ∧ c.toNat ≤ 90) ∨ c = 'ſ' ∨ c = '\u212A' ∨ foldLetter c = c := by
  unfold foldLetter
  split
  · rename_i h
    exact Or.inl ⟨UInt32.le_iff_toNat_le.mp h.1, UInt32.le_iff_toNat_le.mp h.2⟩
  · split
    · rename_i h; exact Or.inr (Or.inl h)
    · split
      · rename_i h; exact Or.inr (Or.inr (Or.inl h))
      · exact Or.inr (Or.inr (Or.inr rfl))

/-- A character that folds to a letter is a word character. -/
theorem isWord_of_foldLetter {c : Char} (h : 97 ≤ (foldLetter c).toNat)
    (h' : (foldLetter c).toNat ≤ 122) : isWord c = true := by
  have hascii : ∀ n < 123, 65 ≤ n ∧ n ≤ 90 ∨ 97 ≤ n → wordRanges.contains n = true := by
    decide
  unfold isWord
  rcases foldLetter_cases c with hu | rfl | rfl | he
  · exact hascii _ (by omega) (Or.inl hu)
  · decide
  · decide +kernel
  · rw [he] at h h'
    exact hascii _ (by omega) (Or.inr h)

section Spells

variable {k : Keyword} {w : List Char}

theorem Spells.length_eq (h : Spells k w) : w.length = k.length := by
  rw [← h, List.length_map]

theorem Spells.ne_nil (h : Spells k w) (hk : Proper k) : w ≠ [] := by
  rintro rfl
  exact hk.1 h.symm

theorem Spells.isWord (h : Spells k w) (hk : Proper k) : ∀ c ∈ w, isWord c = true := by
  intro c hc
  have hmem : foldLetter c ∈ k := h ▸ List.mem_map_of_mem hc
  exact isWord_of_foldLetter (hk.2 _ hmem).1 (hk.2 _ hmem).2

theorem Spells.startsBlank (h : Spells k w) (hk : Proper k) (after : List Char) :
    startsBlank (w ++ after) = false := by
  cases w with
  | nil => exact absurd rfl (h.ne_nil hk)
  | cons c w => exact not_isBlank_of_isWord (h.isWord hk c List.mem_cons_self)

theorem Spells.endsBlank (h : Spells k w) (hk : Proper k) : endsBlank w = false := by
  obtain ⟨c, r, hr⟩ := List.exists_cons_of_ne_nil (List.reverse_ne_nil_iff.mpr (h.ne_nil hk))
  have hc := h.isWord hk c (List.mem_reverse.mp (by rw [hr]; simp))
  unfold Text.endsBlank
  rw [hr]
  exact not_isBlank_of_isWord hc

end Spells

/-! ## Edges of words -/

/-- No word character stands at the end of the text, so a word may begin behind it. -/
def beginsWord (before : List Char) : Bool := endsWord before.reverse

theorem beginsWord_concat (a : List Char) (c : Char) : beginsWord (a ++ [c]) = !isWord c := by
  unfold beginsWord
  rw [List.reverse_append]
  rfl

theorem endsWord_append {a : List Char} (ha : a ≠ []) (b : List Char) :
    endsWord (a ++ b) = endsWord a := by
  cases a with
  | nil => exact absurd rfl ha
  | cons c a => rfl

/-- A word that ends before a text ends before any start of it. -/
theorem endsWord_left {a b : List Char} (h : endsWord (a ++ b) = true) : endsWord a = true := by
  by_cases ha : a = []
  · rw [ha]; rfl
  · rwa [endsWord_append ha] at h

theorem endsWord_both {a b : List Char} (ha : endsWord a = true) (hb : endsWord b = true) :
    endsWord (a ++ b) = true := by
  by_cases hn : a = []
  · rwa [hn]
  · rwa [endsWord_append hn]

theorem beginsWord_append (a : List Char) {b : List Char} (hb : b ≠ []) :
    beginsWord (a ++ b) = beginsWord b := by
  unfold beginsWord
  rw [List.reverse_append, endsWord_append (by simpa using hb)]

/-- Behind a text, a word may begin wherever one may begin without the text. -/
theorem beginsWord_of_append {a b : List Char} (h : beginsWord (a ++ b) = true) :
    beginsWord b = true := by
  by_cases hb : b = []
  · rw [hb]; rfl
  · rwa [beginsWord_append a hb] at h

theorem endsWord_of_startsBlank {s : List Char} (h : startsBlank s = true) :
    endsWord s = true := by
  cases s with
  | nil => rfl
  | cons c s => simpa [endsWord] using isWord_of_isBlank h

theorem endsWord_of_allBlank {gap : List Char} (hg : AllBlank gap) : endsWord gap = true := by
  cases gap with
  | nil => rfl
  | cons c gap => exact endsWord_of_startsBlank (hg c List.mem_cons_self)

theorem endsWord_of_gap {gap : List Char} (hg : AllBlank gap) (hn : gap ≠ [])
    (s : List Char) : endsWord (gap ++ s) = true := by
  rw [endsWord_append hn]
  exact endsWord_of_allBlank hg

theorem beginsWord_of_gap (a : List Char) {gap : List Char} (hg : AllBlank gap)
    (hn : gap ≠ []) : beginsWord (a ++ gap) = true := by
  rw [beginsWord_append a hn]
  obtain ⟨init, c, rfl⟩ := (List.eq_nil_or_concat gap).resolve_left hn
  rw [List.concat_eq_append, beginsWord_concat, isWord_of_isBlank (hg c (by simp))]
  rfl

theorem Spells.not_endsWord {k : Keyword} {w : List Char} (h : Spells k w) (hk : Proper k)
    (after : List Char) : endsWord (w ++ after) = false := by
  cases w with
  | nil => exact absurd rfl (h.ne_nil hk)
  | cons c w => simpa [endsWord] using h.isWord hk c List.mem_cons_self

/-- No word begins inside a run of word characters. -/
theorem eq_nil_of_beginsWord {a b : List Char} (hw : ∀ c ∈ a ++ b, isWord c = true)
    (hb : beginsWord a = true) : a = [] := by
  by_contra hne
  rcases List.eq_nil_or_concat a with rfl | ⟨init, c, rfl⟩
  · exact hne rfl
  · rw [List.concat_eq_append, beginsWord_concat, hw c (by simp)] at hb
    exact absurd hb Bool.false_ne_true

/-- A place where a word begins does not lie inside a gap. -/
theorem place_behind_gap {gap rest before after : List Char} (hg : AllBlank gap)
    (h : gap ++ rest = before ++ after) (he : endsWord after = false) :
    ∃ b, before = gap ++ b ∧ rest = b ++ after := by
  rcases List.append_eq_append_iff.mp h with ⟨b, hb, hr⟩ | ⟨y, hy, ha⟩
  · exact ⟨b, hb, hr⟩
  · cases y with
    | nil => exact ⟨[], by simpa using hy.symm, by simpa using ha.symm⟩
    | cons b y =>
      rw [ha, endsWord_of_startsBlank (s := b :: y ++ rest)] at he
      · exact absurd he.symm Bool.false_ne_true
      · exact hg b (by rw [hy]; simp)

/-- A run of characters with property `p` that the text cannot extend is the longest one. -/
theorem takeWhile_run {p : Char → Bool} {run after : List Char} (hr : ∀ c ∈ run, p c = true)
    (ha : ∀ c ∈ after.head?, p c = false) : (run ++ after).takeWhile p = run := by
  rw [List.takeWhile_append_of_pos hr]
  cases after with
  | nil => simp
  | cons c after => rw [List.takeWhile_cons_of_neg (by simpa using ha c rfl), List.append_nil]

theorem dropWhile_run {p : Char → Bool} {run after : List Char} (hr : ∀ c ∈ run, p c = true)
    (ha : ∀ c ∈ after.head?, p c = false) : (run ++ after).dropWhile p = after := by
  rw [List.dropWhile_append_of_pos hr]
  cases after with
  | nil => rfl
  | cons c after => rw [List.dropWhile_cons_of_neg (by simpa using ha c rfl)]

theorem endsWord_iff {s : List Char} : endsWord s = true ↔ ∀ c ∈ s.head?, isWord c = false := by
  cases s <;> simp [endsWord]

/-- **A whole word is the longest run of word characters at its place.** -/
theorem spells_takeWhile {k : Keyword} {w after : List Char} (h : Spells k w) (hk : Proper k)
    (he : endsWord after = true) : (w ++ after).takeWhile isWord = w :=
  takeWhile_run (h.isWord hk) (endsWord_iff.mp he)

/-! ## Reading at one place -/

theorem stripKeyword?_eq_some_iff {k : Keyword} {s rest : List Char} :
    stripKeyword? k s = some rest ↔ ∃ w, Spells k w ∧ s = w ++ rest := by
  induction k generalizing s with
  | nil =>
    simp only [stripKeyword?, Option.some.injEq, Spells, List.map_eq_nil_iff]
    constructor
    · rintro rfl; exact ⟨[], rfl, rfl⟩
    · rintro ⟨w, rfl, rfl⟩; rfl
  | cons a k ih =>
    cases s with
    | nil =>
      simp only [stripKeyword?]
      constructor
      · intro h; exact absurd h (by simp)
      · rintro ⟨w, hw, hs⟩
        obtain ⟨rfl, -⟩ := List.append_eq_nil_iff.mp hs.symm
        exact absurd hw (by simp [Spells])
    | cons c s =>
      simp only [stripKeyword?]
      constructor
      · intro h
        split at h
        · rename_i hc
          obtain ⟨w, hw, rfl⟩ := ih.mp h
          exact ⟨c :: w, by rw [Spells, List.map_cons, hc, hw], rfl⟩
        · exact absurd h (by simp)
      · rintro ⟨w, hw, hs⟩
        cases w with
        | nil => exact absurd hw (by simp [Spells])
        | cons d w =>
          simp only [Spells, List.map_cons, List.cons.injEq] at hw
          simp only [List.cons_append, List.cons.injEq] at hs
          rw [hs.1, if_pos hw.1]
          exact ih.mpr ⟨w, hw.2, hs.2⟩

/-- **A whole word is read where the text has the keyword and no word character behind it.** -/
theorem stripWord?_eq_some_iff {k : Keyword} {s rest : List Char} :
    stripWord? k s = some rest ↔ ∃ w, Spells k w ∧ s = w ++ rest ∧ endsWord rest = true := by
  unfold stripWord?
  rw [Option.filter_eq_some_iff, stripKeyword?_eq_some_iff]
  constructor
  · rintro ⟨⟨w, hw, hs⟩, he⟩; exact ⟨w, hw, hs, he⟩
  · rintro ⟨w, hw, hs, he⟩; exact ⟨⟨w, hw, hs⟩, he⟩

/-- The text begins with the keyword as a whole word, in whatever case. -/
def BeginsWith (k : Keyword) (s : List Char) : Prop :=
  ∃ w after, s = w ++ after ∧ Spells k w ∧ endsWord after = true

theorem startsWord_iff {k : Keyword} {s : List Char} :
    startsWord k s = true ↔ BeginsWith k s := by
  unfold startsWord
  rw [Option.isSome_iff_exists]
  constructor
  · rintro ⟨after, h⟩
    obtain ⟨w, hw, hs, he⟩ := stripWord?_eq_some_iff.mp h
    exact ⟨w, after, hs, hw, he⟩
  · rintro ⟨w, after, hs, hw, he⟩
    exact ⟨after, stripWord?_eq_some_iff.mpr ⟨w, hw, hs, he⟩⟩

/-- At one place there is at most one whole word. -/
theorem stripWord?_unique {k k' : Keyword} (hk : Proper k) (hk' : Proper k') {s t t' : List Char}
    (h : stripWord? k s = some t) (h' : stripWord? k' s = some t') : k = k' := by
  obtain ⟨w, hw, hs, he⟩ := stripWord?_eq_some_iff.mp h
  obtain ⟨w', hw', hs', he'⟩ := stripWord?_eq_some_iff.mp h'
  have hww : w = w' := by
    rw [← spells_takeWhile hw hk he, ← spells_takeWhile hw' hk' he', ← hs, ← hs']
  rw [← hw, ← hw', hww]

/-- The keywords, each in some case, with blanks between them. -/
inductive Phrase : List Keyword → List Char → Prop
  | word {k : Keyword} {w : List Char} (spells : Spells k w) : Phrase [k] w
  | words {k k' : Keyword} {ks : List Keyword} {w gap rest : List Char} (spells : Spells k w)
      (gap_ne : gap ≠ []) (blank : AllBlank gap) (more : Phrase (k' :: ks) rest) :
      Phrase (k :: k' :: ks) (w ++ gap ++ rest)

/-- Keywords of which each is proper. -/
def ProperPhrase (ks : List Keyword) : Prop := ks ≠ [] ∧ ∀ k ∈ ks, Proper k

instance (ks : List Keyword) : Decidable (ProperPhrase ks) :=
  inferInstanceAs (Decidable (ks ≠ [] ∧ ∀ k ∈ ks, Proper k))

/-- A phrase begins with its first keyword. -/
theorem Phrase.first {k : Keyword} {ks : List Keyword} {body : List Char}
    (h : Phrase (k :: ks) body) : ∃ w rest, Spells k w ∧ body = w ++ rest := by
  cases h with
  | word hw => exact ⟨body, [], hw, (List.append_nil body).symm⟩
  | words hw _ _ _ => exact ⟨_, _, hw, List.append_assoc ..⟩

/-- Where a phrase stands, its first keyword is a whole word. -/
theorem Phrase.stripWord? {k : Keyword} {ks : List Keyword} {body after : List Char}
    (h : Phrase (k :: ks) body) (he : endsWord after = true) :
    ∃ t, stripWord? k (body ++ after) = some t := by
  cases h with
  | word hw => exact ⟨after, stripWord?_eq_some_iff.mpr ⟨body, hw, rfl, he⟩⟩
  | @words _ _ _ w gap rest hw hg hblank _ =>
    refine ⟨gap ++ (rest ++ after), stripWord?_eq_some_iff.mpr ⟨w, hw, ?_, ?_⟩⟩
    · simp only [List.append_assoc]
    · exact endsWord_of_gap hblank hg _

theorem Phrase.not_endsWord {k : Keyword} {ks : List Keyword} {body : List Char}
    (h : Phrase (k :: ks) body) (hk : Proper k) (after : List Char) :
    endsWord (body ++ after) = false := by
  obtain ⟨w, rest, hw, rfl⟩ := h.first
  rw [List.append_assoc]
  exact hw.not_endsWord hk _

/-- Several keywords are read as the first one, a gap, and the others. -/
theorem startsPhrase_cons {k k' : Keyword} {ks : List Keyword} {s : List Char} :
    startsPhrase (k :: k' :: ks) s = true ↔
      ∃ w gap rest, s = w ++ gap ++ rest ∧ Spells k w ∧ gap ≠ [] ∧ AllBlank gap ∧
        startsBlank rest = false ∧ startsPhrase (k' :: ks) rest = true := by
  have hopen : startsPhrase (k :: k' :: ks) s = true ↔ ∃ t, stripWord? k s = some t ∧
      startsBlank t = true ∧ startsPhrase (k' :: ks) (trimStart t) = true := by
    rw [startsPhrase.eq_3 _ _ _ (by simp)]
    cases stripWord? k s <;> simp
  rw [hopen]
  constructor
  · rintro ⟨t, ht, hb, hp⟩
    obtain ⟨w, hw, rfl, -⟩ := stripWord?_eq_some_iff.mp ht
    obtain ⟨gap, hs, hne, hg, hr⟩ := gap_iff.mp ⟨hb, rfl⟩
    exact ⟨w, gap, trimStart t, by rw [List.append_assoc, ← hs], hw, hne, hg, hr, hp⟩
  · rintro ⟨w, gap, rest, rfl, hw, hne, hg, hr, hp⟩
    obtain ⟨hb, ht⟩ := gap_iff.mpr ⟨gap, rfl, hne, hg, hr⟩
    refine ⟨gap ++ rest, ?_, hb, by rwa [ht]⟩
    exact stripWord?_eq_some_iff.mpr
      ⟨w, hw, List.append_assoc .., endsWord_of_startsBlank hb⟩

theorem startsPhrase_iff {ks : List Keyword} (hks : ProperPhrase ks) {s : List Char} :
    startsPhrase ks s = true ↔
      ∃ body after, s = body ++ after ∧ Phrase ks body ∧ endsWord after = true := by
  obtain ⟨hne, hk⟩ := hks
  induction ks generalizing s with
  | nil => exact absurd rfl hne
  | cons k ks ih =>
    cases ks with
    | nil =>
      rw [startsPhrase, startsWord_iff]
      constructor
      · rintro ⟨w, after, hs, hw, he⟩; exact ⟨w, after, hs, .word hw, he⟩
      · rintro ⟨body, after, hs, hb, he⟩
        cases hb with
        | word hw => exact ⟨body, after, hs, hw, he⟩
    | cons k' ks =>
      rw [startsPhrase_cons]
      have hk' : ∀ j ∈ k' :: ks, Proper j := fun j hj => hk j (List.mem_cons_of_mem _ hj)
      constructor
      · rintro ⟨w, gap, rest, rfl, hw, hg, hblank, -, hp⟩
        obtain ⟨body, after, rfl, hbody, he⟩ := (ih (by simp) hk').mp hp
        exact ⟨w ++ gap ++ body, after, by simp only [List.append_assoc],
          .words hw hg hblank hbody, he⟩
      · rintro ⟨body, after, rfl, hb, he⟩
        cases hb with
        | @words _ _ _ w gap rest hw hg hblank hmore =>
          refine ⟨w, gap, rest ++ after, by simp only [List.append_assoc], hw, hg, hblank, ?_,
            (ih (by simp) hk').mpr ⟨rest, after, rfl, hmore, he⟩⟩
          -- the next keyword begins with a word character, so the gap ends where it should
          obtain ⟨w', rest', hw', rfl⟩ := hmore.first
          rw [List.append_assoc]
          exact hw'.startsBlank (hk' k' List.mem_cons_self) _

/-! ## Searching all places -/

/-- **A search over the starts of words finds something iff some place has it.** `pre` is the text
that the search has passed. -/
theorem anyWordStart_iff {p : List Char → Bool} {pre s : List Char} :
    anyWordStart p (!beginsWord pre) s = true ↔
      ∃ before after, s = before ++ after ∧ after ≠ [] ∧ beginsWord (pre ++ before) = true ∧
        p after = true := by
  induction s generalizing pre with
  | nil =>
    constructor
    · intro h; exact absurd h Bool.false_ne_true
    · rintro ⟨before, after, hs, hne, -, -⟩
      exact absurd (List.append_eq_nil_iff.mp hs.symm).2 hne
  | cons c s ih =>
    have hflag : isWord c = !beginsWord (pre ++ [c]) := by rw [beginsWord_concat, Bool.not_not]
    rw [anyWordStart, hflag, Bool.or_eq_true, ih, Bool.not_not, Bool.and_eq_true]
    constructor
    · rintro (⟨hb, hp⟩ | ⟨before, after, rfl, hne, hb, hp⟩)
      · exact ⟨[], c :: s, rfl, by simp, by rwa [List.append_nil], hp⟩
      · exact ⟨c :: before, after, rfl, hne, by rwa [List.append_assoc] at hb, hp⟩
    · rintro ⟨before, after, hs, hne, hb, hp⟩
      cases before with
      | nil =>
        rw [List.nil_append] at hs
        exact Or.inl ⟨by rwa [List.append_nil] at hb, by rwa [hs]⟩
      | cons d before =>
        simp only [List.cons_append, List.cons.injEq] at hs
        obtain ⟨rfl, rfl⟩ := hs
        exact Or.inr ⟨before, after, rfl, hne, by rwa [List.append_assoc], hp⟩

/-- The keywords occur in the text as whole words with blanks between them. -/
def PhraseIn (ks : List Keyword) (s : List Char) : Prop :=
  ∃ before body after, s = before ++ body ++ after ∧ Phrase ks body ∧
    beginsWord before = true ∧ endsWord after = true

theorem containsPhrase_iff {ks : List Keyword} (hks : ProperPhrase ks) {s : List Char} :
    containsPhrase ks s = true ↔ PhraseIn ks s := by
  unfold containsPhrase
  rw [show false = !beginsWord [] from rfl, anyWordStart_iff]
  constructor
  · rintro ⟨before, rest, rfl, -, hb, hp⟩
    obtain ⟨body, after, rfl, hbody, he⟩ := (startsPhrase_iff hks).mp hp
    exact ⟨before, body, after, (List.append_assoc ..).symm, hbody, hb, he⟩
  · rintro ⟨before, body, after, rfl, hbody, hb, he⟩
    refine ⟨before, body ++ after, List.append_assoc .., ?_, hb,
      (startsPhrase_iff hks).mpr ⟨body, after, rfl, hbody, he⟩⟩
    obtain ⟨k, ks, rfl⟩ := List.exists_cons_of_ne_nil hks.1
    obtain ⟨w, rest, hw, rfl⟩ := hbody.first
    have hne := hw.ne_nil (hks.2 k List.mem_cons_self)
    simp [hne]

/-! ## Whole words of a text -/

/-- In `s`, behind `before`, the whole word `w` stands, and behind it `after`. -/
structure WholeWord (s before w after : List Char) : Prop where
  text : s = before ++ (w ++ after)
  ne_nil : w ≠ []
  chars : ∀ c ∈ w, isWord c = true
  begins : beginsWord before = true
  ends : endsWord after = true

section WholeWord

variable {s a b gap before w after : List Char}

theorem WholeWord.not_endsWord (h : WholeWord s before w after) :
    endsWord (w ++ after) = false := by
  obtain ⟨c, w', rfl⟩ := List.exists_cons_of_ne_nil h.ne_nil
  simpa [endsWord] using h.chars c List.mem_cons_self

/-- A text of word characters is one whole word. -/
theorem WholeWord.eq_of_chars (h : WholeWord s before w after)
    (hs : ∀ c ∈ s, isWord c = true) : w = s := by
  have hnil : before = [] := eq_nil_of_beginsWord (h.text ▸ hs) h.begins
  have hafter : after = [] := by
    by_contra hne
    obtain ⟨c, after', rfl⟩ := List.exists_cons_of_ne_nil hne
    have hc : isWord c = true := hs c (by rw [h.text]; simp)
    have he := h.ends
    rw [endsWord, hc] at he
    exact Bool.false_ne_true he
  rw [h.text, hnil, hafter, List.nil_append, List.append_nil]

/-- **A whole word lies on one side of a gap.** -/
theorem WholeWord.of_append (h : WholeWord (a ++ gap ++ b) before w after) (hg : AllBlank gap)
    (hne : gap ≠ []) :
    (∃ y, after = y ++ gap ++ b ∧ WholeWord a before w y) ∨
      ∃ z, before = a ++ gap ++ z ∧ WholeWord b z w after := by
  have hs := h.text
  rw [List.append_assoc] at hs
  rcases List.append_eq_append_iff.mp hs with ⟨z, rfl, hz⟩ | ⟨z, hz, hw⟩
  · obtain ⟨z, rfl, hb⟩ := place_behind_gap hg hz h.not_endsWord
    have hbegins := h.begins
    rw [← List.append_assoc] at hbegins
    exact Or.inr ⟨z, (List.append_assoc ..).symm, hb, h.ne_nil, h.chars,
      beginsWord_of_append hbegins, h.ends⟩
  · refine Or.inl ?_
    rcases List.append_eq_append_iff.mp hw with ⟨y, rfl, hy⟩ | ⟨u, rfl, hu⟩
    · exact ⟨y, by rw [hy, List.append_assoc], hz, h.ne_nil, h.chars, h.begins,
        endsWord_left (hy ▸ h.ends)⟩
    · -- the rest of the word would stand in the gap
      cases u with
      | nil =>
        rw [List.append_nil] at h ⊢
        exact ⟨[], by simpa using hu.symm, by rw [hz, List.append_nil], h.ne_nil, h.chars, h.begins,
          rfl⟩
      | cons c u =>
        obtain ⟨d, gap', rfl⟩ := List.exists_cons_of_ne_nil hne
        simp only [List.cons_append, List.cons.injEq] at hu
        have hc := h.chars c (by simp)
        rw [← hu.1, isWord_of_isBlank (hg d List.mem_cons_self)] at hc
        exact absurd hc Bool.false_ne_true

end WholeWord

/-- A phrase ends in its last keyword, which is a whole word where the phrase stands. -/
theorem Phrase.last {ks : List Keyword} {body : List Char} (h : Phrase ks body) (hne : ks ≠ []) :
    ∃ init w, body = init ++ w ∧ Spells (ks.getLast hne) w ∧
      ∀ before, beginsWord before = true → beginsWord (before ++ init) = true := by
  induction h with
  | word hw => exact ⟨[], _, rfl, hw, fun before hb => by rwa [List.append_nil]⟩
  | @words k k' ks w gap rest _ hg hblank _ ih =>
    obtain ⟨init, w', rfl, hw', hinit⟩ := ih (by simp)
    refine ⟨w ++ gap ++ init, w', (List.append_assoc ..).symm, hw', fun before _ => ?_⟩
    rw [← List.append_assoc]
    exact hinit _ (by rw [← List.append_assoc]; exact beginsWord_of_gap _ hblank hg)

/-- **A text behind a gap makes no phrase** if none of its whole words is the last keyword. -/
theorem PhraseIn.of_append {ks : List Keyword} (hks : ProperPhrase ks) {a gap b : List Char}
    (h : PhraseIn ks (a ++ gap ++ b)) (hg : AllBlank gap) (hne : gap ≠ [])
    (hlast : ∀ before w after, WholeWord b before w after → ¬ Spells (ks.getLast hks.1) w) :
    PhraseIn ks a := by
  obtain ⟨before, body, after, hs, hbody, hb, he⟩ := h
  obtain ⟨init, w, rfl, hw, hinit⟩ := hbody.last hks.1
  have hproper := hks.2 _ (List.getLast_mem hks.1)
  have hword : WholeWord (a ++ gap ++ b) (before ++ init) w after :=
    ⟨by rw [hs]; simp only [List.append_assoc], hw.ne_nil hproper, hw.isWord hproper,
      hinit before hb, he⟩
  rcases hword.of_append hg hne with ⟨y, -, hy⟩ | ⟨z, -, hz⟩
  · exact ⟨before, init ++ w, y, by rw [hy.text]; simp only [List.append_assoc], hbody, hb, hy.ends⟩
  · exact absurd hw (hlast z w after hz)

/-- A phrase stays where no word character is put behind the text. -/
theorem PhraseIn.append {ks : List Keyword} {s : List Char} (h : PhraseIn ks s) {rest : List Char}
    (hr : endsWord rest = true) : PhraseIn ks (s ++ rest) := by
  obtain ⟨before, body, after, rfl, hbody, hb, he⟩ := h
  exact ⟨before, body, after ++ rest, by simp only [List.append_assoc], hbody, hb,
    endsWord_both he hr⟩

end QueryGate.Text
