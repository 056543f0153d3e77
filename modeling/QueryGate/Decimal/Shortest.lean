import QueryGate.Decimal.Binary64
import QueryGate.Power

/-!
# Shortest decimal digits

A finite double is written with the fewest digits that read back as the same double. Of the
decimals with that many digits the nearest to the exact value is taken.

The decimals that read back fill the interval between the midpoints to the neighbouring doubles,
ends included when the mantissa is even. `shortest` walks down the grids `10 ^ p` and stops at the
first that has a point in the interval; if any has, one of the two points next to the value has.
-/

namespace QueryGate.Decimal

/-- Which of two equally near decimals is taken. -/
inductive Tie where
  | toEven
  | up
  deriving DecidableEq, Repr

/-- The digits of `digits · 10 ^ exponent`. -/
structure Digits where
  digits : Nat
  exponent : Int
  deriving DecidableEq, Repr

/-- `a · 2 ^ e` and `n · 10 ^ p` brought to one denominator. -/
structure Scale where
  e : Int
  p : Int

namespace Scale

/-- A number of units `2 ^ e` in the common unit. -/
def binary (s : Scale) (a : Nat) : Nat := a * twoTo s.e.toNat * tenTo (-s.p).toNat

/-- A number of units `10 ^ p` in the common unit. -/
def decimal (s : Scale) (n : Nat) : Nat := n * tenTo s.p.toNat * twoTo (-s.e).toNat

end Scale

/-- The bounds of the decimals that read back as `mantissa · 2 ^ exponent`, and that value itself,
in units of `2 ^ (exponent - 2)`. Below a power of two the neighbour is half as far away. -/
def readBack (mantissa : Nat) (exponent : Int) : Nat × Nat × Nat :=
  let gap := if mantissa = twoTo 52 && -1074 < exponent then 1 else 2
  (4 * mantissa - gap, 4 * mantissa, 4 * mantissa + 2)

/-- The multiple of `10 ^ p` that reads back and is nearest to the value, if there is one. -/
def onGrid? (tie : Tie) (mantissa : Nat) (exponent p : Int) : Option Nat :=
  let s : Scale := ⟨exponent - 2, p⟩
  let (low, value, high) := readBack mantissa exponent
  let even := mantissa % 2 == 0
  let v := s.binary value
  let below := v / s.decimal 1
  let above := below + 1
  let belowFits :=
    if even then s.binary low ≤ s.decimal below else s.binary low < s.decimal below
  let aboveFits :=
    if even then s.decimal above ≤ s.binary high else s.decimal above < s.binary high
  if belowFits then
    if aboveFits then
      let down := v - s.decimal below
      let up := s.decimal above - v
      if down < up then some below
      else if up < down then some above
      else match tie with
        | .toEven => some (if below % 2 == 0 then below else above)
        | .up => some above
    else some below
  else if aboveFits then some above
  else none

/-- The first grid from `10 ^ p` downward that has a point that reads back. -/
def search (tie : Tie) (mantissa : Nat) (exponent : Int) : Nat → Int → Digits
  | 0, p => ⟨0, p⟩
  | fuel + 1, p =>
    match onGrid? tie mantissa exponent p with
    | some n => ⟨n, p⟩
    | none => search tie mantissa exponent fuel (p - 1)

/-- The shortest digits of `mantissa · 2 ^ exponent`, which is not zero. The first grid lies above
the value and the last tried is finer than seventeen digits. -/
def shortest (tie : Tie) (mantissa : Nat) (exponent : Int) : Digits :=
  let bits : Int := Nat.log2 mantissa + 1 + exponent
  search tie mantissa exponent 24 (bits * 30103 / 100000 + 2)

end QueryGate.Decimal
