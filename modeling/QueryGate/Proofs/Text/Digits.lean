import QueryGate.Power
import QueryGate.Proofs.Text.Words
import QueryGate.Text.Integer

/-!
# The digits of a number

A number is written with ASCII digits only, and its digits denote it. So the number that a text
begins with is found again when something else than a digit follows.

* `Digits cs n`: a row of digits that denotes `n`.
* `Stops after`: no digit stands at the front of `after`.

Results:
* `digits_natText`, `natText_injective`: the digits of a number denote it.
* `length_natText_le_iff`: how many digits a number has.
* `takeWhile_natText`, `dropWhile_natText`: a number is cut off where its digits stop.
* `digits_padded`, `length_padded`: a number with zeros in front.
-/

namespace QueryGate.Text

variable {n : Nat} {c : Char} {cs after : List Char}

/-- A row of ASCII digits, at least one, that denotes `n`. -/
def Digits (cs : List Char) (n : Nat) : Prop :=
  cs ≠ [] ∧ (∀ c ∈ cs, isAsciiDigit c = true) ∧ digitsValue cs = n

theorem readDigits?_eq_some_iff {cs : List Char} {n : Nat} :
    readDigits? cs = some n ↔ Digits cs n := by
  cases cs <;> simp [readDigits?, Digits]

/-! ## The digits of a number -/

theorem isAsciiDigit_of_mem_natText (h : c ∈ natText n) : isAsciiDigit c = true := by
  have hdigit := Nat.isDigit_of_mem_toDigits (by decide) (by decide) h
  simpa [isAsciiDigit, Char.isDigit, Char.le_def] using hdigit

theorem digitsValue_natText (n : Nat) : digitsValue (natText n) = n :=
  Nat.ofDigitChars_toDigits (by decide) (by decide)

theorem natText_injective : Function.Injective natText :=
  Function.LeftInverse.injective digitsValue_natText

theorem natText_ne_nil (n : Nat) : natText n ≠ [] := Nat.toDigits_ne_nil

theorem digits_natText (n : Nat) : Digits (natText n) n :=
  ⟨natText_ne_nil n, fun _ => isAsciiDigit_of_mem_natText, digitsValue_natText n⟩

theorem natText_eq_cons (n : Nat) : ∃ d ds, natText n = d :: ds ∧ isAsciiDigit d = true := by
  obtain ⟨d, ds, hd⟩ := List.exists_cons_of_ne_nil (natText_ne_nil n)
  have hmem : d ∈ natText n := hd ▸ List.mem_cons_self
  exact ⟨d, ds, hd, isAsciiDigit_of_mem_natText hmem⟩

theorem length_natText_le_iff {k : Nat} (hk : 0 < k) : (natText n).length ≤ k ↔ n < tenTo k :=
  Nat.length_toDigits_le_iff (by decide) hk

/-! ## Where digits stop -/

/-- No digit stands at the front of the text. -/
def Stops (after : List Char) : Prop := ∀ c ∈ after.head?, isAsciiDigit c = false

theorem stops_cons : Stops (c :: after) ↔ isAsciiDigit c = false := by simp [Stops]

theorem takeWhile_natText (n : Nat) (h : Stops after) :
    (natText n ++ after).takeWhile isAsciiDigit = natText n :=
  takeWhile_run (fun _ => isAsciiDigit_of_mem_natText) h

theorem dropWhile_natText (n : Nat) (h : Stops after) :
    (natText n ++ after).dropWhile isAsciiDigit = after :=
  dropWhile_run (fun _ => isAsciiDigit_of_mem_natText) h

/-! ## Zeros in front -/

theorem foldl_zeros (k : Nat) : (List.replicate k '0').foldl
    (fun n c => 10 * n + (c.toNat - 48)) 0 = 0 := by
  induction k with
  | zero => rfl
  | succ k ih => exact ih

theorem digits_padded (width n : Nat) : Digits (padded width n) n := by
  refine ⟨by simp [padded, natText_ne_nil], fun c hc => ?_, ?_⟩
  · rcases List.mem_append.mp hc with hzero | hdigit
    · rw [List.eq_of_mem_replicate hzero]
      decide
    · exact isAsciiDigit_of_mem_natText hdigit
  · rw [padded, digitsValue, List.foldl_append, foldl_zeros]
    exact digitsValue_natText n

theorem length_padded {width : Nat} (hwidth : 0 < width) (h : n < tenTo width) :
    (padded width n).length = width := by
  have := (length_natText_le_iff hwidth).mpr h
  simp only [padded, List.length_append, List.length_replicate]
  omega

theorem padded_of_le {width : Nat} (h : width ≤ (natText n).length) :
    padded width n = natText n := by
  rw [padded, Nat.sub_eq_zero_of_le h]
  rfl

/-- Two digits behind a row of digits count its value a hundredfold. -/
theorem Digits.append_two {a b : Char} {m : Nat} (h : Digits cs n) (h' : Digits [a, b] m) :
    Digits (cs ++ [a, b]) (100 * n + m) := by
  refine ⟨by simp, fun c hc => ?_, ?_⟩
  · exact (List.mem_append.mp hc).elim (h.2.1 c) (h'.2.1 c)
  · have hvalue := h.2.2
    have hvalue' := h'.2.2
    simp only [digitsValue, List.foldl_append, List.foldl_cons, List.foldl_nil] at hvalue hvalue' ⊢
    omega

end QueryGate.Text
