import QueryGate.Decimal.Shortest
import QueryGate.Text.Integer

/-!
# Written forms of a double

The digits of a double are the same wherever it is written; a layout decides how they are set.
-/

namespace QueryGate.Decimal

open Text

/-- How the digits of a finite number are set. -/
structure Layout where
  /-- The exponents of the first digit that are written without an exponent; all of them when
  absent. -/
  positional : Option (Int × Int)
  /-- A whole number ends in `.0`. -/
  wholeMark : Bool
  /-- Which of two equally near decimals is written. -/
  tie : Tie

/-- A point is set among the digits; `first` is the exponent of the first digit. -/
def positionalText (wholeMark : Bool) (digits : List Char) (first : Int) : List Char :=
  if first < 0 then '0' :: '.' :: (List.replicate (-first - 1).toNat '0' ++ digits)
  else
    let places := first.toNat + 1
    if digits.length ≤ places then
      digits ++ List.replicate (places - digits.length) '0' ++
        (if wholeMark then ['.', '0'] else [])
    else digits.take places ++ '.' :: digits.drop places

/-- One digit, the others behind a point, and the exponent with its sign. -/
def scientificText (digits : List Char) (first : Int) : List Char :=
  let fraction := digits.drop 1
  digits.take 1 ++ (if fraction.isEmpty then [] else '.' :: fraction) ++
    ('e' :: (if first < 0 then '-' else '+') :: natText first.natAbs)

/-- The text of `± mantissa · 2 ^ exponent`. -/
def Layout.finiteText (l : Layout) (negative : Bool) (mantissa : Nat) (exponent : Int) :
    List Char :=
  let body :=
    if mantissa = 0 then positionalText l.wholeMark ['0'] 0
    else
      let d := shortest l.tie mantissa exponent
      let digits := natText d.digits
      let first := d.exponent + (digits.length : Int) - 1
      match l.positional with
      | none => positionalText l.wholeMark digits first
      | some (lo, hi) =>
        if lo ≤ first ∧ first ≤ hi then positionalText l.wholeMark digits first
        else scientificText digits first
  if negative then '-' :: body else body

/-- Structured output writes exponents outside `10 ^ -5` to `10 ^ 15` and marks whole numbers. -/
def structured : Layout := ⟨some (-5, 15), true, .toEven⟩

/-- Plain text never has an exponent and leaves whole numbers bare. -/
def plain : Layout := ⟨none, false, .up⟩

/-- The plain text of a double, with words for what is no finite number. -/
def plainText (x : Binary64) : List Char :=
  match x.classify with
  | .nan => "NaN".toList
  | .infinite false => "inf".toList
  | .infinite true => "-inf".toList
  | .finite negative m e => plain.finiteText negative m e

end QueryGate.Decimal
