import QueryGate.Power

/-!
# Random draws

A source of random numbers gives 32-bit words. Draws of a number from a range multiply a word by
the size of the range and keep the high half; words that would make some numbers more likely than
others are drawn again.

Everything that draws is written for any source, so what holds of it holds for every stream of
words. A draw that has been rejected `maxTries` times in a row gives the least number of the range.

A draw takes the parts of what it draws apart by projection, so that a fact about one part opens
without the other draws.
-/

namespace QueryGate.Random

/-- A source of random words. -/
class Source (σ : Type) where
  next : σ → UInt32 × σ

/-- A draw: a value and the source behind it. -/
abbrev Draw (σ α : Type) := σ → α × σ

/-- How many bits a draw takes at a time. -/
inductive Width where
  | word
  | double
  deriving DecidableEq, Repr

def Width.bits : Width → Nat
  | .word => 32
  | .double => 64

/-- How often a rejected draw is repeated. -/
def maxTries : Nat := 1000

section Draws

variable {σ : Type} [Source σ]

/-- A number of 64 bits: two words, the low one first. -/
def drawDouble : Draw σ Nat := fun s =>
  let low := Source.next s
  let high := Source.next low.2
  (low.1.toNat + high.1.toNat * twoTo 32, high.2)

/-- The bits of one draw as a number. -/
def drawBits : Width → Draw σ Nat
  | .word, s =>
    let word := Source.next s
    (word.1.toNat, word.2)
  | .double, s => drawDouble s

/-- The largest low half that is accepted for a range of the given size. -/
def acceptBelow (w : Width) (size : Nat) : Nat := size * twoTo (w.bits - 1 - Nat.log2 size)

/-- A number below `size`, which is at least one and fits the width. -/
def drawBelow (w : Width) (size : Nat) : Nat → Draw σ Nat
  | 0, s => (0, s)
  | tries + 1, s =>
    let bits := drawBits w s
    let m := bits.1 * size
    if m % twoTo w.bits < acceptBelow w size then (m / twoTo w.bits, bits.2)
    else drawBelow w size tries bits.2

/-- A number from `lo` to `hi`. -/
def drawRange (w : Width) (lo hi : Nat) : Draw σ Nat := fun s =>
  let below := drawBelow w (hi - lo + 1) maxTries s
  (lo + below.1, below.2)

/-- An element of a list; the empty text of an empty one. -/
def drawFrom (choices : Array String) : Draw σ String := fun s =>
  let place := drawRange .word 0 (choices.size - 1) s
  (choices[place.1]?.getD "", place.2)

/-- True with a chance of `chance / 2 ^ 64`. -/
def drawChance (chance : Nat) : Draw σ Bool := fun s =>
  let bits := drawDouble s
  (bits.1 < chance, bits.2)

end Draws

variable {σ : Type} [Source σ]

theorem drawBits_lt (w : Width) (s : σ) : (drawBits w s).1 < twoTo w.bits := by
  cases w with
  | word => exact (Source.next s).1.toNat_lt
  | double =>
    have h1 := (Source.next s).1.toNat_lt
    have h2 := (Source.next (Source.next s).2).1.toNat_lt
    have h3 : twoTo 32 = 4294967296 := rfl
    have h4 : twoTo 64 = 18446744073709551616 := rfl
    simp only [drawBits, drawDouble, Width.bits, h3, h4]
    omega

theorem drawBelow_lt (w : Width) {size : Nat} (h : 0 < size) (tries : Nat) (s : σ) :
    (drawBelow w size tries s).1 < size := by
  induction tries generalizing s with
  | zero => simpa [drawBelow] using h
  | succ n ih =>
    simp only [drawBelow]
    split
    · have hv := drawBits_lt w s
      exact Nat.div_lt_of_lt_mul (Nat.mul_lt_mul_of_pos_right hv h)
    · exact ih _

/-- A drawn number lies in its range. -/
theorem drawRange_mem (w : Width) {lo hi : Nat} (h : lo ≤ hi) (s : σ) :
    lo ≤ (drawRange w lo hi s).1 ∧ (drawRange w lo hi s).1 ≤ hi := by
  have h1 : 0 < hi - lo + 1 := by omega
  have := drawBelow_lt w h1 maxTries s
  simp only [drawRange]
  omega

end QueryGate.Random
