import QueryGate.Decimal.Reader
import QueryGate.Power
import QueryGate.Server.Calendar
import QueryGate.Text.Utf8
import QueryGate.Value.Basic

/-!
# Cells of a server's rows

A server sends the cells of a row as bytes and names the type of each column. A cell is read as its
type says; one that does not fit its type is kept as a text, and one that is no text as bytes. Only
an absent cell becomes an absent value.
-/

namespace QueryGate.Server

open Text

/-- How the cells of a column are read. -/
inductive CellKind where
  | boolean
  | signed
  | unsigned
  | single
  | double
  | decimal
  | day
  | time
  | dayTime
  /-- A day and time in universal time. -/
  | instant
  | bytes
  | text
  deriving DecidableEq, Repr

/-- The kinds of the types, by name. Every other type is read as text. That goes for `BIT` and
`GEOMETRY` too: the driver gives no bytes of these types, so their cells are read as text, and as
bytes if they are no text. -/
def namedKinds : List (String × CellKind) :=
  [("BOOLEAN", .boolean), ("TINYINT", .signed), ("SMALLINT", .signed), ("MEDIUMINT", .signed),
   ("INT", .signed), ("BIGINT", .signed), ("TINYINT UNSIGNED", .unsigned),
   ("SMALLINT UNSIGNED", .unsigned), ("MEDIUMINT UNSIGNED", .unsigned),
   ("INT UNSIGNED", .unsigned), ("BIGINT UNSIGNED", .unsigned), ("FLOAT", .single),
   ("DOUBLE", .double), ("DECIMAL", .decimal), ("DATE", .day), ("TIME", .time),
   ("DATETIME", .dayTime), ("TIMESTAMP", .instant), ("BINARY", .bytes), ("VARBINARY", .bytes),
   ("TINYBLOB", .bytes), ("BLOB", .bytes), ("MEDIUMBLOB", .bytes), ("LONGBLOB", .bytes)]

/-- The kind of a type. -/
def CellKind.ofType (type : String) : CellKind := (namedKinds.lookup type).getD .text

/-- The value of a text in a column of this kind, if it fits. -/
def CellKind.read? (k : CellKind) (s : String) : Option Value :=
  let cs := s.toList
  match k with
  | .boolean => (readInt? (twoTo 7) cs).map fun i => .bool (i != 0)
  | .signed => (readInt? (twoTo 63) cs).map fun i => .int (Int64.ofInt i)
  | .unsigned => (readNat? (twoTo 64) cs).map fun n => .uint (UInt64.ofNat n)
  | .single => (Decimal.readFloat? .single cs).map .float
  | .double => (Decimal.readFloat? .double cs).map .float
  | .decimal => some (.decimal s)
  | .day => (dayOf? cs).map fun d => .temporal (String.ofList d.text)
  | .time => (timeOf? cs).map fun t => .temporal (String.ofList t.text)
  | .dayTime => (dayTimeOf? cs).map fun p => .temporal (String.ofList (dayTimeText p))
  | .instant =>
    (dayTimeOf? cs).map fun p => .temporal (String.ofList (dayTimeText p ++ universalMark))
  | .bytes => none
  | .text => some (.text s)

/-- The value of a cell. -/
def CellKind.decode (k : CellKind) (cell : Option (List UInt8)) : Value :=
  match cell with
  | none => .null
  | some bs =>
    if k = .bytes then .bytes bs
    else
      match decodeUtf8? bs with
      | some s => (k.read? s).getD (.text s)
      | none => .bytes bs

end QueryGate.Server
