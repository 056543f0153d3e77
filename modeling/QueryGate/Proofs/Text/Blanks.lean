import Mathlib.Data.List.TakeWhile
import QueryGate.Text.Keyword

/-!
# Blanks and trimming

A text is cut into the blanks around it and what `trim` leaves. `AllBlank` says that a text has
blanks only; `startsBlank` and `endsBlank` look at its ends.

Results:
* `isWord_of_isBlank`: no blank is a word character, so a blank always parts words.
* `trimStart_split`, `trimEnd_split`, `trim_split`: trimming takes off blanks and nothing else.
* `trimStart_eq_of_split`, `trim_eq_self`: it takes off all of them.
* `gap_iff`: a gap of blanks in front of something else.
-/

namespace QueryGate.Text

/-! ## Blanks and word characters -/

/-- The code points of the blanks. -/
def blankPoints : List Nat :=
  [0x20, 0x9, 0xA, 0xB, 0xC, 0xD, 0x85, 0xA0, 0x1680, 0x2000, 0x2001, 0x2002, 0x2003, 0x2004,
   0x2005, 0x2006, 0x2007, 0x2008, 0x2009, 0x200A, 0x2028, 0x2029, 0x202F, 0x205F, 0x3000]

theorem mem_blankPoints {c : Char} (h : isBlank c = true) : c.toNat ∈ blankPoints := by
  unfold isBlank at h
  simp only [Bool.or_eq_true, Bool.and_eq_true, beq_iff_eq, decide_eq_true_eq] at h
  simp only [blankPoints, List.mem_cons, List.not_mem_nil, or_false]
  omega

/-- No blank is a word character. -/
theorem isWord_of_isBlank {c : Char} (h : isBlank c = true) : isWord c = false := by
  have hall : ∀ n ∈ blankPoints, wordRanges.contains n = false := by decide +kernel
  exact hall _ (mem_blankPoints h)

theorem not_isBlank_of_isWord {c : Char} (h : isWord c = true) : isBlank c = false := by
  cases hb : isBlank c with
  | false => rfl
  | true => rw [isWord_of_isBlank hb] at h; exact absurd h Bool.false_ne_true

/-- A property of all characters of a text is decided along the text, not over all characters. -/
instance decidableForallMem {p : Char → Prop} [DecidablePred p] (s : List Char) :
    Decidable (∀ c ∈ s, p c) :=
  List.decidableBAll p s

/-- The text is blank throughout. -/
def AllBlank (s : List Char) : Prop := ∀ c ∈ s, isBlank c = true

instance (s : List Char) : Decidable (AllBlank s) :=
  inferInstanceAs (Decidable (∀ c ∈ s, isBlank c = true))

theorem allBlank_nil : AllBlank [] := fun _ h => absurd h List.not_mem_nil

/-! ## Trimming -/

/-- A text is blanks and what is left of it when they are trimmed. -/
theorem trimStart_split (s : List Char) : ∃ lead, AllBlank lead ∧ s = lead ++ trimStart s :=
  ⟨s.takeWhile isBlank, fun _ h => List.mem_takeWhile_imp h, List.takeWhile_append_dropWhile.symm⟩

theorem startsBlank_trimStart (s : List Char) : startsBlank (trimStart s) = false := by
  unfold trimStart
  induction s with
  | nil => rfl
  | cons c s ih =>
    rw [List.dropWhile_cons]
    split
    · exact ih
    · rename_i h
      simpa [startsBlank] using h

theorem trimStart_of_startsBlank {s : List Char} (h : startsBlank s = false) : trimStart s = s := by
  cases s with
  | nil => rfl
  | cons c s =>
    unfold trimStart
    rw [List.dropWhile_cons_of_neg (by simpa [startsBlank] using h)]

/-- Leading blanks are trimmed and nothing else. -/
theorem trimStart_append {lead s : List Char} (hl : AllBlank lead) :
    trimStart (lead ++ s) = trimStart s := by
  unfold trimStart
  exact List.dropWhile_append_of_pos hl

theorem trimStart_eq_of_split {lead s : List Char} (hl : AllBlank lead)
    (hs : startsBlank s = false) : trimStart (lead ++ s) = s := by
  rw [trimStart_append hl, trimStart_of_startsBlank hs]

theorem startsBlank_append {a b : List Char} (ha : a ≠ []) :
    startsBlank (a ++ b) = startsBlank a := by
  cases a with
  | nil => exact absurd rfl ha
  | cons c a => rfl

/-- The text ends in a blank. -/
def endsBlank (s : List Char) : Bool := startsBlank s.reverse

theorem trimEnd_eq (s : List Char) : trimEnd s = (trimStart s.reverse).reverse := rfl

theorem trimEnd_split (s : List Char) : ∃ trail, AllBlank trail ∧ s = trimEnd s ++ trail := by
  obtain ⟨lead, hb, hl⟩ := trimStart_split s.reverse
  refine ⟨lead.reverse, fun c hc => hb c (List.mem_reverse.mp hc), ?_⟩
  rw [trimEnd_eq, ← List.reverse_append, ← hl, List.reverse_reverse]

theorem endsBlank_trimEnd (s : List Char) : endsBlank (trimEnd s) = false := by
  unfold endsBlank
  rw [trimEnd_eq, List.reverse_reverse]
  exact startsBlank_trimStart _

theorem trimEnd_of_endsBlank {s : List Char} (h : endsBlank s = false) : trimEnd s = s := by
  rw [trimEnd_eq, trimStart_of_startsBlank h, List.reverse_reverse]

theorem endsBlank_append {a b : List Char} (hb : b ≠ []) : endsBlank (a ++ b) = endsBlank b := by
  unfold endsBlank
  rw [List.reverse_append, startsBlank_append (by simpa using hb)]

theorem startsBlank_trim (s : List Char) : startsBlank (trim s) = false := by
  unfold trim
  obtain ⟨trail, -, ht⟩ := trimEnd_split (trimStart s)
  by_cases hn : trimEnd (trimStart s) = []
  · rw [hn]; rfl
  · have h := startsBlank_trimStart s
    rw [ht, startsBlank_append hn] at h
    exact h

theorem endsBlank_trim (s : List Char) : endsBlank (trim s) = false := endsBlank_trimEnd _

/-- A text without blanks at its ends is trimmed already. -/
theorem trim_eq_self {s : List Char} (hs : startsBlank s = false) (he : endsBlank s = false) :
    trim s = s := by
  unfold trim
  rw [trimStart_of_startsBlank hs, trimEnd_of_endsBlank he]

theorem trim_split (s : List Char) :
    ∃ lead trail, AllBlank lead ∧ AllBlank trail ∧ s = lead ++ trim s ++ trail := by
  obtain ⟨lead, hl, h1⟩ := trimStart_split s
  obtain ⟨trail, ht, h2⟩ := trimEnd_split (trimStart s)
  refine ⟨lead, trail, hl, ht, ?_⟩
  rw [List.append_assoc]
  exact h1.trans (congrArg (lead ++ ·) h2)

/-- What stands between blanks is what is left when the text is trimmed. -/
theorem trim_eq_of_split {lead s trail : List Char} (hl : AllBlank lead) (ht : AllBlank trail)
    (hs : startsBlank s = false) (he : endsBlank s = false) : trim (lead ++ s ++ trail) = s := by
  have htrail : AllBlank trail.reverse := fun c hc => ht c (List.mem_reverse.mp hc)
  have hend : trimEnd (s ++ trail) = s := by
    rw [trimEnd_eq, List.reverse_append, trimStart_append htrail]
    exact trimEnd_of_endsBlank he
  unfold trim
  rw [List.append_assoc, trimStart_append hl]
  by_cases hn : s = []
  · rw [hn, List.nil_append, ← List.append_nil trail, trimStart_append ht]
    rfl
  · rw [trimStart_of_startsBlank (by rwa [startsBlank_append hn]), hend]

/-- **A gap between words**: blanks stand at the start of the text, and `rest` is what is left when
they are trimmed. -/
theorem gap_iff {s rest : List Char} :
    startsBlank s = true ∧ trimStart s = rest ↔
      ∃ gap, s = gap ++ rest ∧ gap ≠ [] ∧ AllBlank gap ∧ startsBlank rest = false := by
  constructor
  · rintro ⟨hb, rfl⟩
    obtain ⟨gap, hg, hs⟩ := trimStart_split s
    refine ⟨gap, hs, ?_, hg, startsBlank_trimStart s⟩
    rintro rfl
    rw [List.nil_append] at hs
    rw [hs, startsBlank_trimStart] at hb
    exact absurd hb Bool.false_ne_true
  · rintro ⟨gap, rfl, hne, hg, hr⟩
    refine ⟨?_, trimStart_eq_of_split hg hr⟩
    rw [startsBlank_append hne]
    obtain ⟨c, gap, rfl⟩ := List.exists_cons_of_ne_nil hne
    exact hg c List.mem_cons_self

end QueryGate.Text
