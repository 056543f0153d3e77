import QueryGate.Proofs.Text.Digits
import QueryGate.Relational.Statement
import QueryGate.Relational.Token

/-!
# Tokens one after another

Every token leaves less text than there was, so the tokens of a text do not depend on how many may
be read at most. A text is cut at its first token, and what follows is cut on its own.

* `Parts rest`: the text goes on with a comma or a closing parenthesis.

Results:
* `tokens_cons`: the first token and the tokens of what it leaves.
* `tokens_number`, `tokens_inQuotes`: a literal is one token.
-/

namespace QueryGate.Relational

open Text

variable {c quote : Char} {s cs inner raw inner' raw' rest : List Char}

/-! ## What a token leaves -/

theorem readQuoted_length (h : readQuoted quote cs inner raw = some (inner', raw', rest)) :
    rest.length ≤ cs.length := by
  fun_induction readQuoted quote cs inner raw with
  | case1 => exact absurd h (by simp)
  | case2 => simp_all
  | case3 inner raw ds ih =>
    have := ih h
    simp only [List.length_cons]
    omega
  | case4 => simp_all
  | case5 c cs inner raw hc ih =>
    have := ih h
    simp only [List.length_cons]
    omega

theorem numberText_length_pos (h : isAsciiDigit c = true ∨ c = '.') :
    0 < (numberText (c :: cs)).length := by
  have hne : numberText (c :: cs) ≠ [] := by
    rcases h with hdigit | rfl
    · simp [numberText, hdigit]
    · simp [numberText, isAsciiDigit]
  exact List.length_pos_iff.mpr hne

theorem readToken_length (c : Char) (cs : List Char) : (readToken c cs).2.length ≤ cs.length := by
  unfold readToken
  extract_lets bad
  split
  · split
    · exact readQuoted_length ‹_›
    · exact Nat.zero_le _
  split
  · split
    · exact readQuoted_length ‹_›
    · exact Nat.zero_le _
  split
  · split
    · rename_i h
      have := readQuoted_length h
      rw [List.length_drop] at this
      split <;> dsimp only <;> omega
    · exact Nat.zero_le _
  split
  · rename_i text _ _ _ hnumber
    have hpos : 0 < (numberText (c :: cs)).length :=
      numberText_length_pos (hnumber.imp_right And.left)
    rw [List.length_drop, List.length_cons]
    change cs.length + 1 - (numberText (c :: cs)).length ≤ cs.length
    omega
  split
  · exact (List.dropWhile_sublist _).length_le
  · exact Nat.le_refl _

theorem skipBlockComment_length (s : List Char) : (skipBlockComment s).length ≤ s.length := by
  fun_induction skipBlockComment s with
  | case1 => exact Nat.le_refl 0
  | case2 rest => simp only [List.length_cons]; omega
  | case3 _ rest _ ih => simp only [List.length_cons]; omega

/-! ## Any number of tokens -/

theorem tokensIn_space {fuel : Nat} (h : isSpace c = true) :
    tokensIn (fuel + 1) (c :: cs) = tokensIn fuel cs := by
  rw [tokensIn, if_pos h]
  · rintro _ rfl
    exact absurd h (by decide)
  · rintro _ rfl
    exact absurd h (by decide)

theorem tokensIn_token {fuel : Nat} (hspace : isSpace c = false)
    (hline : ∀ rest, c = '-' → cs = '-' :: rest → False)
    (hblock : ∀ rest, c = '/' → cs = '*' :: rest → False) :
    tokensIn (fuel + 1) (c :: cs) = (readToken c cs).1 :: tokensIn fuel (readToken c cs).2 := by
  rw [tokensIn, if_neg (Bool.eq_false_iff.mp hspace)]
  · exact hline
  · exact hblock

/-- More tokens than characters are never read. -/
theorem tokensIn_congr {fuel fuel' : Nat} (h : s.length ≤ fuel) (h' : s.length ≤ fuel') :
    tokensIn fuel s = tokensIn fuel' s := by
  induction fuel generalizing fuel' s with
  | zero =>
    rw [List.eq_nil_of_length_eq_zero (Nat.le_zero.mp h)]
    cases fuel' <;> rfl
  | succ fuel ih =>
    rcases s with - | ⟨c, cs⟩
    · cases fuel' <;> rfl
    obtain ⟨fuel', rfl⟩ : ∃ k, fuel' = k + 1 := Nat.exists_eq_add_one.mpr (by simp at h'; omega)
    have hless {rest : List Char} (hrest : rest.length ≤ cs.length) :
        tokensIn fuel rest = tokensIn fuel' rest :=
      ih (hrest.trans (Nat.le_of_succ_le_succ h)) (hrest.trans (Nat.le_of_succ_le_succ h'))
    by_cases hspace : isSpace c = true
    · rw [tokensIn_space hspace, tokensIn_space hspace, hless (Nat.le_refl _)]
    by_cases hline : ∃ rest, c = '-' ∧ cs = '-' :: rest
    · obtain ⟨rest, rfl, rfl⟩ := hline
      have hrest := (List.dropWhile_sublist (fun c => decide (c ≠ '\n')) (l := rest)).length_le
      rw [tokensIn, tokensIn, if_neg hspace, if_neg hspace, hless (hrest.trans (Nat.le_succ _))]
    by_cases hblock : ∃ rest, c = '/' ∧ cs = '*' :: rest
    · obtain ⟨rest, rfl, rfl⟩ := hblock
      have hrest := skipBlockComment_length rest
      rw [tokensIn, tokensIn, if_neg hspace, if_neg hspace, hless (hrest.trans (Nat.le_succ _))]
    have hline' : ∀ rest, c = '-' → cs = '-' :: rest → False :=
      fun rest hc hcs => hline ⟨rest, hc, hcs⟩
    have hblock' : ∀ rest, c = '/' → cs = '*' :: rest → False :=
      fun rest hc hcs => hblock ⟨rest, hc, hcs⟩
    have hspace' := Bool.eq_false_iff.mpr hspace
    rw [tokensIn_token hspace' hline' hblock', tokensIn_token hspace' hline' hblock',
      hless (readToken_length c cs)]

/-- **The first token and the tokens of what it leaves.** -/
theorem tokens_cons (hspace : isSpace c = false) (hline : c ≠ '-') (hblock : c ≠ '/') :
    tokens (c :: cs) = (readToken c cs).1 :: tokens (readToken c cs).2 := by
  have hrest : tokensIn cs.length (readToken c cs).2 = tokens (readToken c cs).2 :=
    tokensIn_congr (readToken_length c cs) (Nat.le_refl _)
  rw [tokens, List.length_cons,
    tokensIn_token hspace (fun _ h _ => hline h) (fun _ h _ => hblock h), hrest]

theorem tokens_space (hspace : isSpace c = true) : tokens (c :: cs) = tokens cs :=
  tokensIn_space hspace

/-! ## Literals -/

/-- The text goes on with a comma or a closing parenthesis. -/
def Parts (rest : List Char) : Prop := ∃ cs, rest = ',' :: cs ∨ rest = ')' :: cs

theorem tokens_comma (cs : List Char) : tokens (',' :: cs) = ⟨.symbol, [',']⟩ :: tokens cs :=
  tokens_cons (by decide) (by decide) (by decide)

theorem tokens_openParen (cs : List Char) : tokens ('(' :: cs) = ⟨.symbol, ['(']⟩ :: tokens cs :=
  tokens_cons (by decide) (by decide) (by decide)

theorem tokens_closeParen (cs : List Char) : tokens (')' :: cs) = ⟨.symbol, [')']⟩ :: tokens cs :=
  tokens_cons (by decide) (by decide) (by decide)

theorem Parts.stops (h : Parts rest) : Stops rest := by
  obtain ⟨cs, rfl | rfl⟩ := h <;> exact stops_cons.mpr (by decide)

/-- Digits alone are a number. -/
theorem numberText_digits {ds : List Char} (hds : ∀ d ∈ ds, isAsciiDigit d = true)
    (h : Parts rest) : numberText (ds ++ rest) = ds := by
  have hwhole := takeWhile_run hds h.stops
  obtain ⟨cs, rfl | rfl⟩ := h <;> simp [numberText, hwhole]

/-- Digits with a point between are a number. -/
theorem numberText_point {ds es : List Char} (hds : ∀ d ∈ ds, isAsciiDigit d = true)
    (hes : ∀ d ∈ es, isAsciiDigit d = true) (h : Parts rest) :
    numberText (ds ++ '.' :: (es ++ rest)) = ds ++ '.' :: es := by
  have hpoint : Stops ('.' :: (es ++ rest)) := stops_cons.mpr (by decide)
  have hwhole := takeWhile_run hds hpoint
  have hfraction := takeWhile_run hes h.stops
  obtain ⟨cs, rfl | rfl⟩ := h <;> simp [numberText, hwhole, hfraction]

/-- **A number before a comma or a parenthesis** is one token. -/
theorem tokens_number {text : List Char} (htext : numberText (text ++ rest) = text)
    (hstart : ∀ d ∈ text.head?, isAsciiDigit d = true) (hne : text ≠ []) :
    tokens (text ++ rest) = ⟨.number, text⟩ :: tokens rest := by
  obtain ⟨d, ds, rfl⟩ := List.exists_cons_of_ne_nil hne
  have hdigit : isAsciiDigit d = true := hstart d rfl
  have hother {c : Char} (hc : isAsciiDigit c = false) : d ≠ c := by
    rintro rfl
    exact absurd (hdigit.symm.trans hc) (by decide)
  have hspace : isSpace d = false := by
    simp only [isSpace, Bool.or_eq_false_iff, beq_eq_false_iff_ne]
    exact ⟨⟨⟨⟨hother rfl, hother rfl⟩, hother rfl⟩, hother rfl⟩, hother rfl⟩
  have hread : readToken d (ds ++ rest) = (⟨.number, d :: ds⟩, rest) := by
    rw [List.cons_append] at htext
    unfold readToken
    rw [if_neg (hother rfl), if_neg (not_or.mpr ⟨hother rfl, hother rfl⟩),
      if_neg fun hx => hx.1.elim (hother rfl) (hother rfl), if_pos (.inl hdigit)]
    simp only [htext, List.length_cons, List.drop_succ_cons, List.drop_left]
  rw [List.cons_append, tokens_cons hspace (hother rfl) (hother rfl), hread]

theorem readQuoted_other (hc : c ≠ quote) (cs inner raw : List Char) :
    readQuoted quote (c :: cs) inner raw = readQuoted quote cs (c :: inner) (c :: raw) := by
  rcases cs with - | ⟨d, ds⟩ <;> simp [readQuoted, hc]

/-- A text is found again between its quotes, unless one more quote follows. -/
theorem readQuoted_inQuotes (hrest : ∀ c ∈ rest.head?, c ≠ quote) (s inner raw : List Char) :
    readQuoted quote (s.flatMap (fun c => if c = quote then [quote, quote] else [c]) ++
      quote :: rest) inner raw =
      some (inner.reverse ++ s,
        quote :: ((s.flatMap fun c => if c = quote then [quote, quote] else [c]).reverse ++ raw),
        rest) := by
  induction s generalizing inner raw with
  | nil =>
    rcases rest with - | ⟨d, ds⟩
    · simp [readQuoted]
    · have hd : d ≠ quote := hrest d rfl
      simp [readQuoted, hd]
  | cons c s ih =>
    by_cases hc : c = quote
    · simp [readQuoted, hc, ih]
    · simp [readQuoted_other hc, hc, ih]

/-- **A text in apostrophes before a comma or a parenthesis** is one token. -/
theorem tokens_inQuotes (h : Parts rest) (s : List Char) :
    tokens (inQuotes '\'' s ++ rest) = ⟨.text s, inQuotes '\'' s⟩ :: tokens rest := by
  have hrest : ∀ c ∈ rest.head?, c ≠ '\'' := by
    obtain ⟨cs, rfl | rfl⟩ := h <;> simp
  have hread := readQuoted_inQuotes hrest s [] ['\'']
  have htoken : readToken '\'' (s.flatMap (fun c => if c = '\'' then ['\'', '\''] else [c]) ++
      '\'' :: rest) = (⟨.text s, inQuotes '\'' s⟩, rest) := by
    rw [readToken, if_pos rfl, hread]
    simp [inQuotes]
  rw [inQuotes, List.cons_append, List.append_assoc, List.singleton_append,
    tokens_cons (by decide) (by decide) (by decide), htoken]
  rfl

end QueryGate.Relational
