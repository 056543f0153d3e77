import QueryGate.Text.Ascii
import QueryGate.Text.Lower
import QueryGate.Proofs.Text.Words

/-!
# Texts up to the case of ASCII letters

`uncased s` is `s` with its ASCII letters in lower case, so two texts differ only in the case of
ASCII letters iff they are the same text uncased. The functions that read a text do not see the
difference: a test gives the same answer for `uncased s` as for `s`, and what is cut out of
`uncased s` is `uncased` of what is cut out of `s`.

* `lowerAscii_invariant`: what holds a letter and its other case alike holds every character and
  its lower case alike. The character classes of this library do.
* `stripWord?_uncased`, `containsPhrase_uncased`: keywords are found alike.
* `lower_uncased`: the full lower-case form is the same, a capital sigma among the letters included.
-/

namespace QueryGate.Text

/-! ## Characters -/

/-- **A function of characters that sends both cases of each ASCII letter to one value** does not
see the case of ASCII letters. -/
theorem lowerAscii_invariant {β : Type} {f : Char → β}
    (h : ∀ n < 91, 65 ≤ n → f (Char.ofNat (n + 32)) = f (Char.ofNat n)) (c : Char) :
    f (lowerAscii c) = f c := by
  unfold lowerAscii
  split
  · rename_i hc
    have hlo : 65 ≤ c.toNat := UInt32.le_iff_toNat_le.mp hc.1
    have hhi : c.toNat ≤ 90 := UInt32.le_iff_toNat_le.mp hc.2
    rw [h c.toNat (by omega) hlo, Char.ofNat_toNat]
  · rfl

@[simp] theorem isWord_lowerAscii (c : Char) : isWord (lowerAscii c) = isWord c :=
  lowerAscii_invariant (by decide) c

@[simp] theorem isBlank_lowerAscii (c : Char) : isBlank (lowerAscii c) = isBlank c :=
  lowerAscii_invariant (by decide) c

@[simp] theorem foldLetter_lowerAscii (c : Char) : foldLetter (lowerAscii c) = foldLetter c :=
  lowerAscii_invariant (by decide) c

@[simp] theorem lowerChar_lowerAscii (c : Char) : lowerChar (lowerAscii c) = lowerChar c :=
  lowerAscii_invariant (by decide) c

@[simp] theorem isCased_lowerAscii (c : Char) : isCased (lowerAscii c) = isCased c :=
  lowerAscii_invariant (by decide) c

@[simp] theorem isCaseIgnorable_lowerAscii (c : Char) :
    isCaseIgnorable (lowerAscii c) = isCaseIgnorable c :=
  lowerAscii_invariant (by decide) c

/-! ## Texts -/

/-- The text with its ASCII letters in lower case. -/
def uncased (s : List Char) : List Char := s.map lowerAscii

@[simp] theorem uncased_nil : uncased [] = [] := rfl

@[simp] theorem uncased_cons (c : Char) (s : List Char) :
    uncased (c :: s) = lowerAscii c :: uncased s := rfl

@[simp] theorem uncased_append (a b : List Char) : uncased (a ++ b) = uncased a ++ uncased b :=
  List.map_append

theorem uncased_reverse (s : List Char) : uncased s.reverse = (uncased s).reverse :=
  List.map_reverse

theorem uncased_uncased (s : List Char) : uncased (uncased s) = uncased s := by
  have hcomp : lowerAscii ∘ lowerAscii = lowerAscii :=
    funext (lowerAscii_invariant (f := lowerAscii) (by decide))
  unfold uncased
  rw [List.map_map, hcomp]

@[simp] theorem uncased_eq_nil_iff {s : List Char} : uncased s = [] ↔ s = [] :=
  List.map_eq_nil_iff

section Runs

variable {p : Char → Bool} (hp : ∀ c, p (lowerAscii c) = p c)
include hp

theorem takeWhile_uncased (s : List Char) : (uncased s).takeWhile p = uncased (s.takeWhile p) := by
  have hcomp : p ∘ lowerAscii = p := funext hp
  unfold uncased
  rw [List.takeWhile_map, hcomp]

theorem dropWhile_uncased (s : List Char) : (uncased s).dropWhile p = uncased (s.dropWhile p) := by
  have hcomp : p ∘ lowerAscii = p := funext hp
  unfold uncased
  rw [List.dropWhile_map, hcomp]

theorem filter_uncased (s : List Char) : (uncased s).filter p = uncased (s.filter p) := by
  have hcomp : p ∘ lowerAscii = p := funext hp
  unfold uncased
  rw [List.filter_map, hcomp]

theorem all_uncased (s : List Char) : (uncased s).all p = s.all p := by
  have hcomp : p ∘ lowerAscii = p := funext hp
  unfold uncased
  rw [List.all_map, hcomp]

theorem any_uncased (s : List Char) : (uncased s).any p = s.any p := by
  have hcomp : p ∘ lowerAscii = p := funext hp
  unfold uncased
  rw [List.any_map, hcomp]

end Runs

@[simp] theorem startsBlank_uncased (s : List Char) : startsBlank (uncased s) = startsBlank s := by
  cases s with
  | nil => rfl
  | cons c s => exact isBlank_lowerAscii c

@[simp] theorem endsWord_uncased (s : List Char) : endsWord (uncased s) = endsWord s := by
  cases s with
  | nil => rfl
  | cons c s => exact congrArg (!·) (isWord_lowerAscii c)

@[simp] theorem trimStart_uncased (s : List Char) :
    trimStart (uncased s) = uncased (trimStart s) :=
  dropWhile_uncased isBlank_lowerAscii s

@[simp] theorem trimEnd_uncased (s : List Char) : trimEnd (uncased s) = uncased (trimEnd s) := by
  rw [trimEnd_eq, trimEnd_eq, ← uncased_reverse, trimStart_uncased, uncased_reverse]

@[simp] theorem trim_uncased (s : List Char) : trim (uncased s) = uncased (trim s) := by
  unfold trim
  rw [trimStart_uncased, trimEnd_uncased]

theorem allBlank_uncased {s : List Char} (h : AllBlank s) : AllBlank (uncased s) := by
  refine List.forall_mem_map.mpr fun c hc => ?_
  rw [isBlank_lowerAscii]
  exact h c hc

/-! ## Keywords -/

theorem Spells.uncased {k : Keyword} {w : List Char} (h : Spells k w) : Spells k (uncased w) := by
  have hcomp : foldLetter ∘ lowerAscii = foldLetter := funext foldLetter_lowerAscii
  unfold Spells Text.uncased
  rw [List.map_map, hcomp]
  exact h

theorem stripKeyword?_uncased (k : Keyword) (s : List Char) :
    stripKeyword? k (uncased s) = (stripKeyword? k s).map uncased := by
  induction k generalizing s with
  | nil => rfl
  | cons a k ih =>
    cases s with
    | nil => rfl
    | cons c s =>
      rw [uncased_cons, stripKeyword?, stripKeyword?, foldLetter_lowerAscii]
      split
      · exact ih s
      · rfl

theorem stripWord?_uncased (k : Keyword) (s : List Char) :
    stripWord? k (uncased s) = (stripWord? k s).map uncased := by
  unfold stripWord?
  rw [stripKeyword?_uncased]
  cases stripKeyword? k s with
  | none => rfl
  | some rest =>
    rw [Option.map_some, Option.filter_some, Option.filter_some, endsWord_uncased]
    split <;> rfl

@[simp] theorem startsWord_uncased (k : Keyword) (s : List Char) :
    startsWord k (uncased s) = startsWord k s := by
  unfold startsWord
  rw [stripWord?_uncased, Option.isSome_map]

theorem startsPhrase_uncased (ks : List Keyword) (s : List Char) :
    startsPhrase ks (uncased s) = startsPhrase ks s := by
  induction ks generalizing s with
  | nil => rfl
  | cons k ks ih =>
    cases ks with
    | nil => exact startsWord_uncased k s
    | cons k' ks =>
      rw [startsPhrase.eq_3 _ _ _ (by simp), startsPhrase.eq_3 _ _ _ (by simp), stripWord?_uncased]
      cases stripWord? k s with
      | none => rfl
      | some rest =>
        simp only [Option.map_some, startsBlank_uncased, trimStart_uncased, ih]

/-- A search over the starts of words finds something alike if what it looks for is alike. -/
theorem anyWordStart_uncased {p : List Char → Bool} (hp : ∀ s, p (uncased s) = p s) (inWord : Bool)
    (s : List Char) : anyWordStart p inWord (uncased s) = anyWordStart p inWord s := by
  induction s generalizing inWord with
  | nil => rfl
  | cons c s ih =>
    rw [anyWordStart, ← hp (c :: s), ← ih, ← isWord_lowerAscii]
    rfl

theorem containsPhrase_uncased (ks : List Keyword) (s : List Char) :
    containsPhrase ks (uncased s) = containsPhrase ks s :=
  anyWordStart_uncased (startsPhrase_uncased ks) false s

/-! ## Lower case -/

theorem reachesCased_uncased (s : List Char) : reachesCased (uncased s) = reachesCased s := by
  unfold reachesCased
  rw [dropWhile_uncased isCaseIgnorable_lowerAscii]
  cases s.dropWhile isCaseIgnorable with
  | nil => rfl
  | cons c s => exact isCased_lowerAscii c

/-- Lower-casing does not see the case of what is before the text either, which decides on the form
of a capital sigma. -/
theorem lowerAfter_uncased (before s : List Char) :
    lowerAfter (uncased before) (uncased s) = lowerAfter before s := by
  induction s generalizing before with
  | nil => rfl
  | cons c s ih =>
    have hsigma : lowerAscii c = 'Σ' ↔ c = 'Σ' :=
      decide_eq_decide.mp (lowerAscii_invariant (f := fun c => decide (c = 'Σ')) (by decide) c)
    have hdotted : lowerAscii c = 'İ' ↔ c = 'İ' :=
      decide_eq_decide.mp (lowerAscii_invariant (f := fun c => decide (c = 'İ')) (by decide) c)
    rw [uncased_cons, lowerAfter, lowerAfter, ← uncased_cons, ih, lowerChar_lowerAscii]
    unfold lowerSigma
    simp only [hsigma, hdotted, reachesCased_uncased]

theorem lower_uncased (s : List Char) : lower (uncased s) = lower s :=
  lowerAfter_uncased [] s

end QueryGate.Text
