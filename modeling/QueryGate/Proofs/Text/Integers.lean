import QueryGate.Proofs.Text.Digits

/-!
# Written integers

What the readers of integers accept, said by the digits in the text: a row of digits with a sign in
front or none.

* `Unsigned cs n`, `Signed cs i`: the text writes the number.

Results:
* `readNat?_eq_some_iff`, `readInt?_eq_some_iff`: a reader takes the texts that write a number of
  its range, and nothing else.
* `signed_intText`: an integer is written by its own text.
-/

namespace QueryGate.Text

variable {bound n : Nat} {i : Int} {cs : List Char}

/-- A row of digits for `n`, with a plus sign in front or none. -/
def Unsigned (cs : List Char) (n : Nat) : Prop :=
  Digits cs n ∨ ∃ digits, cs = '+' :: digits ∧ Digits digits n

/-- The text of an unsigned number, or a row of digits with a minus sign in front, for `i`. -/
def Signed (cs : List Char) (i : Int) : Prop :=
  (∃ n : Nat, i = n ∧ Unsigned cs n) ∨
    ∃ (digits : List Char) (n : Nat), cs = '-' :: digits ∧ Digits digits n ∧ i = -n

/-- A row of digits does not start with a sign. -/
theorem Digits.ne_sign {c : Char} {digits : List Char} (hc : isAsciiDigit c = false) :
    ¬ Digits (c :: digits) n :=
  fun h => absurd (h.2.1 c List.mem_cons_self) (by simp [hc])

/-- **The reader of unsigned numbers** takes the digits of a number below its bound, with a plus
sign in front or none, and nothing else. -/
theorem readNat?_eq_some_iff : readNat? bound cs = some n ↔ Unsigned cs n ∧ n < bound := by
  unfold readNat? Unsigned
  split
  · rename_i rest
    have hplus : ¬ Digits ('+' :: rest) n := Digits.ne_sign rfl
    simp only [Option.filter_eq_some_iff, readDigits?_eq_some_iff, decide_eq_true_eq, hplus,
      false_or, List.cons.injEq, true_and, exists_eq_left']
  · rename_i hplus
    have hnone : ¬ ∃ digits, cs = '+' :: digits ∧ Digits digits n :=
      fun ⟨digits, hcs, _⟩ => hplus digits hcs
    simp only [Option.filter_eq_some_iff, readDigits?_eq_some_iff, decide_eq_true_eq, hnone,
      or_false]

/-- No unsigned number has a minus sign. -/
theorem Unsigned.ne_minus {digits : List Char} : ¬ Unsigned ('-' :: digits) n := by
  rintro (h | ⟨_, hcs, -⟩)
  · exact Digits.ne_sign rfl h
  · exact absurd (List.cons.inj hcs).1 (by decide)

/-- **The reader of signed numbers** takes the digits of a number from `-bound` to below `bound`,
with a sign in front or none, and nothing else. -/
theorem readInt?_eq_some_iff (hbound : 0 < bound) :
    readInt? bound cs = some i ↔ Signed cs i ∧ -(bound : Int) ≤ i ∧ i < bound := by
  unfold readInt? Signed
  split
  · rename_i rest
    simp only [Option.bind_eq_bind, Option.pure_def, Option.map_eq_some_iff,
      Option.bind_eq_some_iff, Option.filter_eq_some_iff, readDigits?_eq_some_iff,
      decide_eq_true_eq, Option.some.injEq]
    constructor
    · rintro ⟨_, ⟨n, ⟨hdigits, hn⟩, rfl⟩, rfl⟩
      exact ⟨.inr ⟨rest, n, rfl, hdigits, rfl⟩, by omega, by omega⟩
    · rintro ⟨⟨n, -, hn⟩ | ⟨digits, n, hcs, hdigits, rfl⟩, hlow, -⟩
      · exact absurd hn Unsigned.ne_minus
      · obtain rfl := (List.cons.inj hcs).2
        exact ⟨n, ⟨n, ⟨hdigits, by omega⟩, rfl⟩, rfl⟩
  · rename_i hminus
    simp only [Option.bind_eq_bind, Option.pure_def, Option.map_eq_some_iff,
      Option.bind_eq_some_iff, readNat?_eq_some_iff, Option.some.injEq]
    constructor
    · rintro ⟨_, ⟨n, ⟨hn, hlt⟩, rfl⟩, rfl⟩
      exact ⟨.inl ⟨n, rfl, hn⟩, by omega, by omega⟩
    · rintro ⟨⟨n, rfl, hn⟩ | ⟨digits, _, hcs, -⟩, -, hlt⟩
      · exact ⟨n, ⟨n, ⟨hn, by omega⟩, rfl⟩, rfl⟩
      · exact absurd hcs (hminus digits)

theorem unsigned_natText (n : Nat) : Unsigned (natText n) n := .inl (digits_natText n)

theorem signed_intText (i : Int) : Signed (intText i) i := by
  cases i with
  | ofNat n => exact .inl ⟨n, rfl, unsigned_natText n⟩
  | negSucc n => exact .inr ⟨natText (n + 1), n + 1, rfl, digits_natText (n + 1), rfl⟩

end QueryGate.Text
