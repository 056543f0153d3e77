import QueryGate.Power

/-!
# Double-precision numbers

A double is kept as its 64 bits and read as an exact value: not a number, an infinity, or
`± mantissa · 2 ^ exponent`. All arithmetic on it is exact arithmetic on naturals.
-/

namespace QueryGate

/-- A double-precision number, given by its bits. -/
structure Binary64 where
  bits : UInt64
  deriving DecidableEq, Repr

/-- What a double stands for. -/
inductive FloatClass where
  | nan
  | infinite (negative : Bool)
  /-- `± mantissa · 2 ^ exponent`. -/
  | finite (negative : Bool) (mantissa : Nat) (exponent : Int)
  deriving DecidableEq, Repr

/-- A binary floating-point format. The exponents are those of the last mantissa bit. -/
structure FloatFormat where
  /-- Bits of the mantissa, the leading one included. -/
  precision : Nat
  /-- The exponent of subnormal numbers. -/
  minExponent : Int
  /-- The largest exponent of a finite number. -/
  maxExponent : Int

/-- The format with 53 bits of mantissa. -/
def FloatFormat.double : FloatFormat := ⟨53, -1074, 971⟩

/-- The format with 24 bits of mantissa. -/
def FloatFormat.single : FloatFormat := ⟨24, -149, 104⟩

namespace Binary64

/-- The value of a double. -/
def classify (x : Binary64) : FloatClass :=
  let n : Nat := x.bits.toNat
  let negative := n / twoTo 63 == 1
  let biased : Nat := n / twoTo 52 % twoTo 11
  let fraction : Nat := n % twoTo 52
  if biased == 2047 then
    if fraction == 0 then .infinite negative else .nan
  else if biased == 0 then .finite negative fraction (-1074)
  else .finite negative (twoTo 52 + fraction) ((biased : Int) - 1075)

/-- The bits of a sign, a biased exponent and a fraction. -/
def assemble (negative : Bool) (biased fraction : Nat) : Binary64 :=
  ⟨UInt64.ofNat ((if negative then twoTo 63 else 0) + biased * twoTo 52 + fraction)⟩

/-- The infinity with the given sign. -/
def infinity (negative : Bool) : Binary64 := assemble negative 2047 0

/-- A quiet not-a-number. -/
def nan : Binary64 := assemble false 2047 (twoTo 51)

/-- `± mantissa · 2 ^ exponent` as a double, for a value that is one. -/
def ofParts (negative : Bool) (mantissa : Nat) (exponent : Int) : Binary64 :=
  if mantissa = 0 then assemble negative 0 0
  else
    let up := (52 : Int) - (Nat.log2 mantissa : Int)
    let e := exponent - up
    if e < -1074 then
      -- a subnormal number keeps its last bit at the lowest exponent
      let shift := exponent + 1074
      assemble negative 0
        (if 0 ≤ shift then mantissa * twoTo shift.toNat else mantissa / twoTo (-shift).toNat)
    else
      let m := if 0 ≤ up then mantissa * twoTo up.toNat else mantissa / twoTo (-up).toNat
      assemble negative (e + 1075).toNat (m - twoTo 52)

/-- Equality of numbers: a not-a-number equals nothing, and the two zeros are equal. -/
def numEq (x y : Binary64) : Bool :=
  match x.classify, y.classify with
  | .nan, _ => false
  | _, .nan => false
  | .finite _ 0 _, .finite _ 0 _ => true
  | _, _ => x == y

/-- The whole part of a number that is finite and not negative; a minus sign on zero is ignored. -/
def whole? (x : Binary64) : Option Nat :=
  match x.classify with
  | .finite negative m e =>
    if negative && m != 0 then none
    else if 0 ≤ e then some (m * twoTo e.toNat)
    else some (m / twoTo (-e).toNat)
  | _ => none

end Binary64

end QueryGate
