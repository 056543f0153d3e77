import Mathlib.Algebra.Order.Floor.Semifield
import Mathlib.Data.Rat.Floor
import QueryGate.Proofs.Text.Integers
import QueryGate.Value.Basic

/-!
# Values as counts

Which values carry a count, and which count, said without the functions that read them: a double is
the exact rational that it stands for, and an exact decimal is the text that it is written as.

* `Binary64.value?`: the number that a double stands for. `whole?_eq_some_iff`: its whole part is
  the floor of that number, if the number is not negative.
* `Value.Counts`, `Value.count?_eq_some_iff`: the count of a value.
-/

namespace QueryGate

open Text

/-! ## Doubles -/

namespace Binary64

/-- The number that a double stands for; an infinity and what is no number stand for none. -/
def value? (x : Binary64) : Option ℚ :=
  match x.classify with
  | .finite negative m e => some ((if negative then -1 else 1) * ((m : ℚ) * 2 ^ e))
  | _ => none

/-- The floor of `m · 2 ^ e` is a product for a whole number and a quotient else. -/
theorem floor_dyadic (m : Nat) (e : Int) :
    ⌊(m : ℚ) * 2 ^ e⌋₊ = if 0 ≤ e then m * twoTo e.toNat else m / twoTo (-e).toNat := by
  split
  · rename_i he
    obtain ⟨k, rfl⟩ := Int.eq_ofNat_of_zero_le he
    have hcast : (m : ℚ) * 2 ^ (k : Int) = ((m * 2 ^ k : Nat) : ℚ) := by
      rw [zpow_natCast]
      push_cast
      rfl
    rw [hcast, Nat.floor_natCast]
    rfl
  · rename_i he
    obtain ⟨k, rfl⟩ : ∃ k : Nat, e = -(k : Int) := ⟨(-e).toNat, by omega⟩
    have hcast : (m : ℚ) * 2 ^ (-(k : Int)) = (m : ℚ) / ((2 ^ k : Nat) : ℚ) := by
      rw [zpow_neg, zpow_natCast, ← div_eq_mul_inv]
      push_cast
      rfl
    rw [hcast, Nat.floor_div_eq_div, Int.neg_neg, Int.toNat_natCast]
    rfl

/-- **The whole part of a double** is the floor of its number, if that is not negative. -/
theorem whole?_eq_some_iff {x : Binary64} {n : Nat} :
    x.whole? = some n ↔ ∃ q, x.value? = some q ∧ 0 ≤ q ∧ ⌊q⌋₊ = n := by
  unfold whole? value?
  cases x.classify with
  | nan => simp
  | infinite negative => simp
  | finite negative m e =>
    have hpos : (0 : ℚ) < 2 ^ e := zpow_pos (by norm_num) e
    have hvalue : 0 ≤ (m : ℚ) * 2 ^ e := mul_nonneg m.cast_nonneg hpos.le
    have hfloor : (if 0 ≤ e then some (m * twoTo e.toNat) else some (m / twoTo (-e).toNat)) =
        some ⌊(m : ℚ) * 2 ^ e⌋₊ := by
      rw [floor_dyadic, apply_ite some]
    simp only [Option.some.injEq, exists_eq_left', hfloor]
    cases negative with
    | false => simp [hvalue]
    | true =>
      -- a minus sign leaves the number below zero, unless the mantissa is zero
      by_cases hm : m = 0
      · simp [hm]
      · have hneg : 0 < (m : ℚ) * 2 ^ e := mul_pos (by positivity) hpos
        simp [hm, hneg]

end Binary64

/-! ## Counts -/

namespace Value

/-- The text of an exact number before its first point. -/
def BeforePoint (cs whole : List Char) : Prop :=
  '.' ∉ whole ∧ (cs = whole ∨ ∃ rest, cs = whole ++ '.' :: rest)

theorem beforePoint_iff {cs whole : List Char} :
    BeforePoint cs whole ↔ cs.takeWhile (· != '.') = whole := by
  constructor
  · rintro ⟨hpoint, rfl | ⟨rest, rfl⟩⟩
    · rw [List.takeWhile_eq_self_iff]
      exact fun c hc => bne_iff_ne.mpr fun he => hpoint (he ▸ hc)
    · exact takeWhile_run (fun c hc => bne_iff_ne.mpr fun he => hpoint (he ▸ hc)) (by simp)
  · rintro rfl
    refine ⟨fun h => by simpa using List.mem_takeWhile_imp h, ?_⟩
    have hsplit := List.takeWhile_append_dropWhile (p := (· != '.')) (l := cs)
    have hhead := List.head?_dropWhile_not (· != '.') cs
    cases hrest : cs.dropWhile (· != '.') with
    | nil => exact .inl (by rw [hrest, List.append_nil] at hsplit; exact hsplit.symm)
    | cons c rest =>
      rw [hrest] at hsplit hhead
      obtain rfl : c = '.' := by simpa using hhead
      exact .inr ⟨rest, hsplit.symm⟩

/-- **The count of a value**: a whole number that is not negative, as it is; a double that stands
for a number that is not negative, cut to a whole number and held at the largest count; an exact
number whose text before the point is an unsigned number of 64 bits. No other value has one. -/
inductive Counts : Value → Nat → Prop where
  | int {i : Int64} {n : Nat} (h : i.toInt = n) : Counts (.int i) n
  | uint (u : UInt64) : Counts (.uint u) u.toNat
  | float {x : Binary64} {q : ℚ} (hx : x.value? = some q) (hq : 0 ≤ q) :
    Counts (.float x) (min (2 ^ 64 - 1) ⌊q⌋₊)
  | decimal {s : String} {whole : List Char} {n : Nat} (hs : BeforePoint s.toList whole)
    (hn : Unsigned whole n) (hlt : n < 2 ^ 64) : Counts (.decimal s) n

theorem count?_eq_some_iff {v : Value} {n : Nat} : v.count? = some n ↔ v.Counts n := by
  constructor
  · intro h
    cases v with
    | int i =>
      simp only [count?, Option.ite_none_right_eq_some, Option.some.injEq] at h
      exact .int (by omega)
    | uint u =>
      obtain rfl : u.toNat = n := Option.some.inj h
      exact .uint u
    | float x =>
      obtain ⟨whole, hwhole, rfl⟩ := Option.map_eq_some_iff.mp h
      obtain ⟨q, hq, hnonneg, rfl⟩ := Binary64.whole?_eq_some_iff.mp hwhole
      exact .float hq hnonneg
    | decimal s =>
      obtain ⟨hn, hlt⟩ := readNat?_eq_some_iff.mp h
      exact .decimal (beforePoint_iff.mpr rfl) hn hlt
    | null | bool | text | temporal | bytes => exact nomatch h
  · rintro (h | _ | ⟨hx, hq⟩ | ⟨hs, hn, hlt⟩)
    · simp [count?, h]
    · rfl
    · simp only [count?, Binary64.whole?_eq_some_iff.mpr ⟨_, hx, hq, rfl⟩]
      rfl
    · rw [count?, beforePoint_iff.mp hs]
      exact readNat?_eq_some_iff.mpr ⟨hn, hlt⟩

/-- A double and an exact number are cut; a minus sign is not read in one, and text is never
read. -/
example : [Value.float ⟨0x4004000000000000⟩, .decimal "+2.5", .decimal "-0", .text "2"].map count? =
    [some 2, some 2, none, none] := by decide

end Value

end QueryGate
