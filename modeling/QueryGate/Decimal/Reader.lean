import QueryGate.Decimal.Binary64
import QueryGate.Power
import QueryGate.Text.Integer

/-!
# Reading decimal numbers

A decimal is a natural number times a power of ten. It is rounded to the nearest number of a binary
format, a tie going to the even mantissa; what is too large becomes an infinity.
-/

namespace QueryGate.Decimal

open Text

/-- The quotient of two naturals rounded to the nearest, a tie to the even one. -/
def divNearestEven (n d : Nat) : Nat :=
  let q := n / d
  let r := n % d
  if 2 * r < d then q
  else if d < 2 * r then q + 1
  else if q % 2 = 0 then q else q + 1

/-- `num / den` in units of `2 ^ e`, rounded. -/
def inUnits (num den : Nat) (e : Int) : Nat :=
  if 0 ≤ e then divNearestEven num (den * twoTo e.toNat)
  else divNearestEven (num * twoTo (-e).toNat) den

/-- The exponent of the last mantissa bit for a quotient, from the sizes of its sides. The true one
is this or one more. -/
def lastBitGuess (f : FloatFormat) (num den : Nat) : Int :=
  max f.minExponent ((Nat.log2 num : Int) - (Nat.log2 den : Int) - (f.precision : Int))

/-- Mantissa and exponent of the number nearest to `num / den`; absent when it is too large. -/
def roundQuotient? (f : FloatFormat) (num den : Nat) : Option (Nat × Int) :=
  let e0 := lastBitGuess f num den
  let e := if inUnits num den e0 < twoTo f.precision then e0 else e0 + 1
  let m := inUnits num den e
  let (m, e) := if m < twoTo f.precision then (m, e) else (m / 2, e + 1)
  if f.maxExponent < e then none else some (m, e)

/-- `± digits · 10 ^ exponent` as a double that is first rounded to the format. -/
def toBinary64 (f : FloatFormat) (negative : Bool) (digits : Nat) (exponent : Int) : Binary64 :=
  if digits = 0 then .ofParts negative 0 0
  else if 400 < exponent + (natText digits).length then .infinity negative
  else if exponent + (natText digits).length < -400 then .ofParts negative 0 0
  else
    let q := if 0 ≤ exponent then (digits * tenTo exponent.toNat, 1)
      else (digits, tenTo (-exponent).toNat)
    match roundQuotient? f q.1 q.2 with
    | some (m, e) => .ofParts negative m e
    | none => .infinity negative

/-- The digits and the power of ten of a text with an optional point and exponent. -/
def readDecimal? (cs : List Char) : Option (Nat × Int) :=
  let whole := cs.takeWhile isAsciiDigit
  let rest := cs.dropWhile isAsciiDigit
  let (fraction, rest) := match rest with
    | '.' :: r => (r.takeWhile isAsciiDigit, r.dropWhile isAsciiDigit)
    | _ => ([], rest)
  if whole.isEmpty && fraction.isEmpty then none
  else
    let digits := digitsValue (whole ++ fraction)
    let shift : Int := -(fraction.length : Int)
    match rest with
    | [] => some (digits, shift)
    | c :: r =>
      if c = 'e' || c = 'E' then
        let (negative, ds) := match r with
          | '-' :: ds => (true, ds)
          | '+' :: ds => (false, ds)
          | _ => (false, r)
        (readDigits? ds).map fun n => (digits, shift + (if negative then -(n : Int) else n))
      else none

/-- A number of the format in text: decimal, or a word for an infinity or for no number. -/
def readFloat? (f : FloatFormat) (cs : List Char) : Option Binary64 :=
  let (negative, body) := match cs with
    | '-' :: r => (true, r)
    | '+' :: r => (false, r)
    | _ => (false, cs)
  let word := body.map lowerAscii
  if word = "inf".toList ∨ word = "infinity".toList then some (.infinity negative)
  else if word = "nan".toList then some .nan
  else (readDecimal? body).map fun (digits, exponent) => toBinary64 f negative digits exponent

end QueryGate.Decimal
