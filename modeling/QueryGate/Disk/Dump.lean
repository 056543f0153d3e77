import QueryGate.Disk.Content
import QueryGate.Text.Utf8
import QueryGate.Url.Percent

/-!
# Databases as text

A database is dumped as a heading and statements, one a line. Line breaks inside a value are
percent-encoded. What a database holds beside plain tables is dumped as rows of tables with names of
their own: indexes, references, and the history.
-/

namespace QueryGate.Relational

open Text

namespace Dump

/-- The first line of a dump. -/
def heading : List Char := "-- sandbox database".toList

/-- The names of the tables that are added for a dump. -/
def indexTable : Identifier := "sandbox_index".toList
def referenceTable : Identifier := "sandbox_reference".toList
def versionTable : Identifier := "sandbox_version".toList
def entryTable : Identifier := "sandbox_entry".toList
def stateTable : Identifier := "sandbox_state".toList

/-- A number as a value. -/
def number (i : Int) : Value := .int (Int64.ofInt i)

/-- A text as a value. -/
def textValue (cs : List Char) : Value := .text (String.ofList cs)

/-- The number that a value is; zero for other values. -/
def asInt : Value → Int
  | .int i => i.toInt
  | _ => 0

/-- The number that a value is, unless it is absent. -/
def asInt? : Value → Option Int
  | .int i => some i.toInt
  | _ => none

/-- The text that a value is, unless it is absent. -/
def asText? : Value → Option String
  | .text s => some s
  | _ => none

/-- The characters of the text that a value is. -/
def asChars (v : Value) : List Char := ((asText? v).getD "").toList

/-- An entry of the history as a row. -/
def entryRow (e : Entry) : List Value :=
  let a := e.attempt
  [number e.id, number a.userId, textValue a.sql, .text a.status.name, .ofOption number a.elapsed,
   .ofOption number a.rowsScanned, .ofOption number a.rowsReturned, .ofOption .text a.indexUsed,
   .ofOption .text a.plan, .ofOption .text a.message, number e.createdAt]

/-- The entry of a row. -/
def entryOfRow? : List Value → Option Entry
  | [id, user, sql, status, elapsed, scanned, returned, index, plan, message, at?] => some
    { id := (asInt id).toNat
      createdAt := (asInt at?).toNat
      attempt :=
        { userId := asInt user, sql := asChars sql
          status := .ofName ((asText? status).getD "")
          elapsed := asInt? elapsed, rowsScanned := asInt? scanned
          rowsReturned := asInt? returned, indexUsed := asText? index, plan := asText? plan
          message := asText? message } }
  | _ => none

/-- The columns of an added table, which are only counted. -/
def columnNames (count : Nat) : List Identifier :=
  (List.range count).map fun n => 'c' :: natText n

/-- The rows of all tables, under the names of their tables, with what is added for the dump. -/
def tables (db : Database) : List (Identifier × List Identifier × List (List Value)) :=
  let added (name : Identifier) (count : Nat) (rows : List (List Value)) :=
    (name, columnNames count, rows)
  let (hasVersions, versions) := match db.history.versions with
    | .table (some versions) => (1, versions)
    | _ => (0, [])
  let (hasLog, log) := match db.history.log with
    | .table log => (1, log)
    | _ => (0, {})
  db.tables.map (fun t => (t.name, t.columns, t.rows)) ++
    [added indexTable 3 (db.tables.flatMap fun t =>
       t.indexes.map fun i => [textValue t.name, textValue i.name, number i.width]),
     added referenceTable 3 (db.tables.flatMap fun t =>
       t.references.map fun r => [textValue t.name, number r.place, textValue r.parent]),
     added versionTable 1 (versions.map fun v => [number v]),
     added entryTable 11 (log.entries.map entryRow),
     added stateTable 4
       [[number hasVersions, number hasLog, number (if db.history.indexed then 1 else 0),
         number log.lastId]]]

/-- The statements of a dump. -/
def statements (db : Database) : List Statement :=
  (tables db).flatMap fun (name, columns, rows) =>
    .create name columns :: rows.map fun row => .insert name [row]

/-- The characters that a line may not hold. -/
def lineSet : Url.EncodeSet := fun c => c == '\n' || c == '\r' || c == '%'

/-- The lines of a dump. -/
def lines (db : Database) : List (List Char) :=
  heading :: (statements db).map fun s => Url.encode lineSet s.sql

/-- The statement of a line. -/
def statementOf? (line : List Char) : Option Statement :=
  (decodeUtf8? (Url.decodeBytes line)).bind fun sql => (Statement.read sql.toList).toOption

/-- The tables that statements make, the last first, and the rows of each, the last first. -/
def collect : List Table → List Statement → List Table
  | ts, [] => ts
  | ts, .create name columns :: rest => collect ({ name, columns } :: ts) rest
  | t :: ts, .insert _ rows :: rest => collect ({ t with rows := rows ++ t.rows } :: ts) rest
  | ts, _ :: rest => collect ts rest

/-- The rows of a table among others. -/
def rowsOf (ts : List Table) (name : Identifier) : List (List Value) :=
  ((ts.find? (·.name == name)).map (·.rows)).getD []

/-- The database that statements of a dump describe. -/
def database (ss : List Statement) : Database :=
  let ts := (collect [] ss).reverse.map fun t => { t with rows := t.rows.reverse }
  let added := [indexTable, referenceTable, versionTable, entryTable, stateTable]
  let indexesOf (t : Table) : List Index := (rowsOf ts indexTable).filterMap fun
    | [table, name, width] =>
      if asChars table = t.name then some ⟨asChars name, (asInt width).toNat⟩ else none
    | _ => none
  let referencesOf (t : Table) : List Reference := (rowsOf ts referenceTable).filterMap fun
    | [table, place, parent] =>
      if asChars table = t.name then some ⟨(asInt place).toNat, asChars parent⟩ else none
    | _ => none
  let state := ((rowsOf ts stateTable).headD []).map asInt
  let at? (n : Nat) : Int := state[n]?.getD 0
  let versions := (rowsOf ts versionTable).map fun row => asInt (row.headD .null)
  let log : Log := ⟨(rowsOf ts entryTable).filterMap entryOfRow?, (at? 3).toNat⟩
  { tables := (ts.filter fun t => !added.contains t.name).map fun t =>
      { t with indexes := indexesOf t, references := referencesOf t }
    history :=
      { versions := if at? 0 = 1 then .table (some versions) else .absent
        log := if at? 1 = 1 then .table log else .absent
        indexed := at? 2 = 1 } }

end Dump

/-- The database of a dump, given as its lines. -/
def Database.ofDump? (lines : List (List Char)) : Option Database :=
  match lines with
  | first :: rest =>
    if first = Dump.heading then some (Dump.database (rest.filterMap Dump.statementOf?)) else none
  | [] => none

end QueryGate.Relational

namespace QueryGate.Content

open Relational

/-- What the text of a file holds: a database, if it is the dump of one. -/
def ofString (s : String) : Content :=
  match Database.ofDump? ((s.splitOn "\n").map String.toList) with
  | some db => .database db
  | none => .text s.toList

/-- What the bytes of a file hold. -/
def ofBytes (bytes : ByteArray) : Content :=
  match String.fromUTF8? bytes with
  | some s => ofString s
  | none => .bytes bytes.toList

/-- The bytes of a file. -/
def toBytes : Content → ByteArray
  | .text s => (String.ofList s).toUTF8
  | .bytes bs => ⟨bs.toArray⟩
  | .database db => (String.join ((Dump.lines db).map fun l => String.ofList l ++ "\n")).toUTF8

end QueryGate.Content
