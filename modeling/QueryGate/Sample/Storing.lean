import QueryGate.Decimal.Reader
import QueryGate.Relational.Database
import QueryGate.Sample.Generation
import Std.Data.HashSet.Basic

/-!
# Sample data in a file database

What the statements of a generation do to the tables of a file database. A statement that would
repeat a key or break a reference fails and changes nothing. Keys are integers, so both are checked
with sets of integers.
-/

namespace QueryGate.Sample

open Relational (Fault Identifier)

/-- A value as it is stored. An amount is stored as a number: an integer if it is whole. -/
def Cell.value : Cell → Value
  | .int n => .int (Int64.ofNat n)
  | .text s => .text s
  | .date d => .text d.text
  | .amount cents =>
    if cents % 100 = 0 then .int (Int64.ofNat (cents / 100))
    else .float (Decimal.toBinary64 .double false cents (-2))

/-- A row as it is stored. -/
def storedRow (r : Row) : List Value := r.map Cell.value

/-- The name of a table as an identifier. -/
def Table.identifier (t : Table) : Identifier := t.name.toList

/-- How wide the entries of an index on a column are thought to be: texts count by their length. -/
def indexWidth (t : Table) (column : String) : Nat :=
  match t.columns.find? (·.name == column) with
  | some ⟨_, .varchar length, _⟩ => length / 4 + 1
  | _ => 1

/-- The index that a database makes for the keys of a table. -/
def keyIndex (t : Table) : Relational.Index :=
  ⟨("sqlite_autoindex_" ++ t.name ++ "_1").toList, 1⟩

/-- An index as it is stored. -/
def storedIndex (t : Table) (i : Index) : Relational.Index :=
  ⟨i.name.toList, indexWidth t i.column⟩

/-- A table as it is created. -/
def Table.stored (t : Table) (withIndexes : Bool) : Relational.Table where
  name := t.identifier
  columns := t.columns.map (·.name.toList)
  indexes := keyIndex t :: (if withIndexes then t.indexes.map (storedIndex t) else [])
  references := t.references.filterMap fun r =>
    (t.columns.findIdx? (·.name == r.column)).map (⟨·, r.parent.identifier⟩)

/-- The integer at a place of a row. -/
def integerAt (place : Nat) (row : List Value) : Option Int64 :=
  match row[place]? with
  | some (.int n) => some n
  | _ => none

/-- The integers at a place of the rows. -/
def integersAt (place : Nat) (rows : List (List Value)) : List Int64 :=
  rows.filterMap (integerAt place)

/-- The keys of a table's rows. -/
def keysOf (t : Relational.Table) : Std.HashSet Int64 := .ofList (integersAt 0 t.rows)

/-- The keys that are among `known` or stand twice in the list. -/
def repeats (known : Std.HashSet Int64) : List Int64 → Bool
  | [] => false
  | k :: ks => known.contains k || repeats (known.insert k) ks

/-- Every integer at the place of a reference is a key of the table referred to. -/
def refersToRows (db : Relational.Database) (rows : List (List Value)) (r : Relational.Reference) :
    Bool :=
  match db.table? r.parent with
  | some parent =>
    let keys := keysOf parent
    (integersAt r.place rows).all keys.contains
  | none => false

/-- Puts rows into a table. -/
def insertRows (db : Relational.Database) (t : Table) (rows : List Row) :
    Except Fault Relational.Database := do
  let table ← db.table t.identifier
  let new := rows.map storedRow
  if repeats (keysOf table) (integersAt 0 new) then
    .error (.repeatedKey t.identifier Table.idColumn.name.toList)
  else if !table.references.all (refersToRows db new) then .error .brokenReference
  else .ok (db.replace { table with rows := table.rows ++ new })

/-- Adds an index to a table, unless it is there. -/
def addIndex (db : Relational.Database) (t : Table) (i : Index) :
    Except Fault Relational.Database := do
  let table ← db.table t.identifier
  let index := storedIndex t i
  if table.indexes.any (·.name == index.name) then .ok db
  else .ok (db.replace { table with indexes := table.indexes ++ [index] })

/-- Carries out a statement on a file database. -/
def Statement.store (s : Statement) (db : Relational.Database) :
    Except Fault Relational.Database :=
  match s with
  | .create t withIndexes =>
    match db.table? t.identifier with
    | some _ => .ok db
    | none => .ok { db with tables := db.tables ++ [t.stored withIndexes] }
  | .createIndex t i => addIndex db t i
  | .clear t => (db.execute (.delete t.identifier)).map (·.database)
  | .insert t rows => insertRows db t rows

/-- Carries out statements in order: the database behind the last that succeeded, and the fault of
the one that did not. -/
def storeAll (db : Relational.Database) : List Statement → Relational.Database × Option Fault
  | [] => (db, none)
  | s :: rest =>
    match s.store db with
    | .ok db' => storeAll db' rest
    | .error fault => (db, some fault)

end QueryGate.Sample
