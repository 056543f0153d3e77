import QueryGate.Json
import QueryGate.Power

/-!
# Values and records

A value read from a database keeps its class: an absent value is neither zero nor an empty text,
signed and unsigned integers are told apart, and exact decimals stay text. A record is a list of
labelled values; labels may repeat, and a lookup takes the first.
-/

namespace QueryGate

open Text

/-- A value of a database row. -/
inductive Value where
  | null
  | bool (b : Bool)
  | int (i : Int64)
  | uint (n : UInt64)
  | float (x : Binary64)
  /-- An exact number in its written form. -/
  | decimal (s : String)
  | text (s : String)
  /-- A date, a time or both, in the written form of ISO 8601. -/
  | temporal (s : String)
  | bytes (bs : List UInt8)
  deriving DecidableEq, Repr

/-- The largest count. -/
def maxCount : Nat := twoTo 64 - 1

/-- The sum of two counts, held at the largest count. -/
def satAdd (a b : Nat) : Nat := min maxCount (a + b)

namespace Value

def isNull : Value → Bool
  | .null => true
  | _ => false

/-- The value as a count, if it is a number that is not negative. Text is never read as one. A
number with a fraction is cut, and one above the largest count is held there. -/
def count? : Value → Option Nat
  | .int i => if 0 ≤ i.toInt then some i.toInt.toNat else none
  | .uint n => some n.toNat
  | .float x => x.whole?.map (min maxCount)
  | .decimal s => readNat? (maxCount + 1) (s.toList.takeWhile (· != '.'))
  | _ => none

/-- The value as plain text. -/
def display : Value → String
  | .null => "NULL"
  | .bool b => if b then "true" else "false"
  | .int i => String.ofList (intText i.toInt)
  | .uint n => String.ofList (natText n.toNat)
  | .float x => String.ofList (Decimal.plainText x)
  | .decimal s => s
  | .text s => s
  | .temporal s => s
  | .bytes bs => "<" ++ String.ofList (natText bs.length) ++ " bytes>"

/-- The value in structured output. -/
def toJson : Value → Json
  | .null => .null
  | .bool b => .bool b
  | .int i => .int i.toInt
  | .uint n => .int n.toNat
  | .float x => .float x
  | .decimal s => .str s
  | .text s => .str s
  | .temporal s => .str s
  | .bytes bs => .arr (bs.map fun b => .int b.toNat)

/-- The two values are of one class and equal in it; floats are compared as numbers. -/
def same : Value → Value → Bool
  | .float x, .float y => x.numEq y
  | a, b => a == b

/-- A value that may be absent. -/
def ofOption {α : Type} (f : α → Value) : Option α → Value
  | some a => f a
  | none => .null

/-- The name of the class. -/
def className : Value → String
  | .null => "Null"
  | .bool _ => "Bool"
  | .int _ => "Int"
  | .uint _ => "UInt"
  | .float _ => "Float"
  | .decimal _ => "Decimal"
  | .text _ => "String"
  | .temporal _ => "Temporal"
  | .bytes _ => "Bytes"

end Value

/-- Labelled values in order. -/
structure Record where
  fields : List (String × Value)
  deriving DecidableEq, Repr

namespace Record

/-- The first value with exactly this label. -/
def get? (r : Record) (label : String) : Option Value :=
  (r.fields.find? (·.1 == label)).map (·.2)

/-- The first value whose label is this one up to the case of ASCII letters. -/
def getIgnoreCase? (r : Record) (label : String) : Option Value :=
  (r.fields.find? fun f => eqIgnoreAsciiCase f.1 label).map (·.2)

def labels (r : Record) : List String := r.fields.map (·.1)

def size (r : Record) : Nat := r.fields.length

def isEmpty (r : Record) : Bool := r.fields.isEmpty

/-- The record in structured output: an object with the labels as keys, in order. -/
def toJson (r : Record) : Json := .obj (r.fields.map fun f => (f.1, f.2.toJson))

/-- Equal labels with the same values, field by field. -/
def same (a b : Record) : Bool :=
  a.size == b.size && (a.fields.zip b.fields).all fun p => p.1.1 == p.2.1 && p.1.2.same p.2.2

end Record

/-- The columns of a result and its rows. -/
structure RowSet where
  columns : List String := []
  rows : List Record := []
  deriving DecidableEq, Repr

namespace RowSet

def rowCount (s : RowSet) : Nat := s.rows.length

def isEmpty (s : RowSet) : Bool := s.rows.isEmpty

def toJson (s : RowSet) : Json :=
  .obj [("columns", .arr (s.columns.map .str)), ("rows", .arr (s.rows.map Record.toJson))]

end RowSet

end QueryGate
