import QueryGate.Text.Ascii

/-!
# Integers in text

An integer is written with ASCII digits, with an optional sign in front and nothing around it. An
unsigned integer may have a plus sign only.
-/

namespace QueryGate.Text

/-- The number that a row of decimal digits denotes. -/
def digitsValue (cs : List Char) : Nat := cs.foldl (fun n c => 10 * n + (c.toNat - 48)) 0

/-- The number written with digits alone; at least one is needed. -/
def readDigits? (cs : List Char) : Option Nat :=
  if cs.isEmpty || !cs.all isAsciiDigit then none else some (digitsValue cs)

/-- The unsigned number below `bound`. -/
def readNat? (bound : Nat) (cs : List Char) : Option Nat :=
  let digits := match cs with
    | '+' :: rest => rest
    | _ => cs
  (readDigits? digits).filter (· < bound)

/-- The signed number from `-bound` to below `bound`. -/
def readInt? (bound : Nat) (cs : List Char) : Option Int :=
  match cs with
  | '-' :: rest => ((readDigits? rest).filter (· ≤ bound)).map fun n => -(n : Int)
  | _ => (readNat? bound cs).map fun n => (n : Int)

/-- The digits of a natural number. -/
def natText (n : Nat) : List Char := Nat.toDigits 10 n

/-- The text of an integer. -/
def intText : Int → List Char
  | .ofNat n => natText n
  | .negSucc n => '-' :: natText (n + 1)

/-- The digits of a number with zeros in front, up to a width. -/
def padded (width n : Nat) : List Char :=
  let digits := natText n
  List.replicate (width - digits.length) '0' ++ digits

end QueryGate.Text
