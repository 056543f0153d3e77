import QueryGate.Connection.Backend
import QueryGate.History.Schema
import QueryGate.Power
import QueryGate.Relational.Reader
import QueryGate.Value.Plan

/-!
# A file database

The tables of a database file and what statements do to them. `Database.check` finds what is wrong
with a statement before it runs; a statement that passes can still break a reference between
tables. Names are compared without regard to the case of ASCII letters.
-/

namespace QueryGate.Relational

open Text

/-- An index of a table. -/
structure Index where
  name : Identifier
  /-- How wide its entries are thought to be. -/
  width : Nat
  deriving DecidableEq, Repr

/-- A column whose values are first-column values of another table. -/
structure Reference where
  /-- The place of the column. -/
  place : Nat
  parent : Identifier
  deriving DecidableEq, Repr

/-- A table. -/
structure Table where
  name : Identifier
  columns : List Identifier
  rows : List (List Value) := []
  /-- The indexes in the order in which they were made. -/
  indexes : List Index := []
  references : List Reference := []
  deriving DecidableEq, Repr

/-- What a database file holds. -/
structure Database where
  history : Schema := {}
  tables : List Table := []
  deriving DecidableEq, Repr

/-- Why a statement fails. -/
inductive Fault where
  | notRead (fault : SyntaxFault)
  | noTable (name : Identifier)
  | tableExists (name : Identifier)
  | noColumn (name : Identifier)
  | noTables
  | duplicateColumn (name : Identifier)
  | valueCount (table : Identifier) (columns values : Nat)
  | unevenRows
  | unevenParts
  | sortPlace (place count : Nat)
  | sortName (place : Nat)
  | brokenReference
  /-- Two rows have the same key. -/
  | repeatedKey (table column : Identifier)
  deriving DecidableEq, Repr

/-- A name in a message. -/
def shown (name : List Char) : String := String.ofList name

/-- The wording of a fault. -/
def Fault.message : Fault → String
  | .notRead fault => fault.message
  | .noTable name => "no such table: " ++ shown name
  | .tableExists name => "table " ++ shown name ++ " already exists"
  | .noColumn name => "no such column: " ++ shown name
  | .noTables => "no tables specified"
  | .duplicateColumn name => "duplicate column name: " ++ shown name
  | .valueCount table columns values =>
    "table " ++ shown table ++ " has " ++ shown (natText columns) ++ " columns but " ++
      shown (natText values) ++ " values were supplied"
  | .unevenRows => "all VALUES must have the same number of terms"
  | .unevenParts =>
    "SELECTs to the left and right of UNION ALL do not have the same number of result columns"
  | .sortPlace place count =>
    shown (natText place) ++ ordinalEnd place ++
      " ORDER BY term out of range - should be between 1 and " ++ shown (natText count)
  | .sortName place =>
    shown (natText place) ++ ordinalEnd place ++
      " ORDER BY term does not match any column in the result set"
  | .brokenReference => "FOREIGN KEY constraint failed"
  | .repeatedKey table column => "UNIQUE constraint failed: " ++ shown table ++ "." ++ shown column
where
  /-- The end of an ordinal number. -/
  ordinalEnd (n : Nat) : String :=
    if n % 100 / 10 = 1 then "th"
    else match n % 10 with
      | 1 => "st"
      | 2 => "nd"
      | 3 => "rd"
      | _ => "th"

/-- Two names are the same. -/
def sameName (a b : Identifier) : Bool := a.map lowerAscii == b.map lowerAscii

/-- The place of a column. -/
def Table.place? (t : Table) (column : Identifier) : Option Nat :=
  t.columns.findIdx? (sameName column)

/-- The index that is read to count rows: the narrowest, of equally narrow ones the latest. -/
def Table.countingIndex? (t : Table) : Option Index :=
  t.indexes.foldl
    (fun best i => if best.all (i.width ≤ ·.width) then some i else best) none

namespace Database

def table? (db : Database) (name : Identifier) : Option Table :=
  db.tables.find? (sameName name ·.name)

/-- The table of this name, or the fault that there is none. -/
def table (db : Database) (name : Identifier) : Except Fault Table :=
  (db.table? name).elim (.error (.noTable name)) .ok

/-- Puts a table in the place of the one with its name. -/
def replace (db : Database) (t : Table) : Database :=
  { db with tables := db.tables.map fun u => if sameName u.name t.name then t else u }

/-- The table refers to others, or others refer to it. -/
def isLinked (db : Database) (t : Table) : Bool :=
  !t.references.isEmpty ||
    db.tables.any fun u => u.references.any fun r => sameName r.parent t.name

/-- Every value of a referring column is absent or stands first in a row of the other table. -/
def referenceHolds (db : Database) (t : Table) (r : Reference) : Bool :=
  let keys := ((db.table? r.parent).map (·.rows.filterMap (·.head?))).getD []
  t.rows.all fun row =>
    match row[r.place]? with
    | some v => v.isNull || keys.contains v
    | none => true

/-- All references from and to the table of this name hold. -/
def referencesHold (db : Database) (name : Identifier) : Bool :=
  db.tables.all fun t => t.references.all fun r =>
    !(sameName t.name name || sameName r.parent name) || db.referenceHolds t r

/-! ### Queries -/

/-- A column of a result that a query was resolved to. -/
inductive Source where
  | place (n : Nat)
  | literal (v : Value)
  | count
  deriving DecidableEq, Repr

/-- What an item shows of a table, with the labels. -/
def resolveItem (table? : Option Table) (i : Item) : Except Fault (List (Source × List Char)) :=
  match i.term, table? with
  | .literal v, _ => .ok [(.literal v, i.label)]
  | .count, _ => .ok [(.count, i.label)]
  | .all, some t => .ok ((List.range t.columns.length).zipWith (fun n c => (.place n, c)) t.columns)
  | .all, none => .error .noTables
  | .column name, some t =>
    match t.place? name with
    | some n => .ok [(.place n, if i.label = name then t.columns[n]?.getD name else i.label)]
    | none => .error (.noColumn name)
  | .column name, none => .error (.noColumn name)

/-- What a part of a query shows, with the labels. -/
def resolvePart (db : Database) (p : Part) :
    Except Fault (Option Table × List (Source × List Char)) := do
  let table? ← match p.source? with
    | some name => (db.table name).map some
    | none => .ok none
  let items ← p.items.mapM (resolveItem table?)
  .ok (table?, items.flatten)

/-- The rows of a resolved part. A count makes one row of all. -/
def partRows (table? : Option Table) (sources : List Source) : List (List Value) :=
  let rows := (table?.map (·.rows)).getD [[]]
  let cell (row : List Value) : Source → Value
    | .place n => row[n]?.getD .null
    | .literal v => v
    | .count => .int (Int64.ofNat rows.length)
  if sources.contains .count then [sources.map (cell (rows.getLast?.getD []))]
  else rows.map fun row => sources.map (cell row)

/-- The place of a number in the order of values: absent, numbers, texts, bytes. -/
def rank : Value → Nat
  | .null => 0
  | .text _ => 2
  | .bytes _ => 3
  | _ => 1

/-- A number as a quotient; an infinity is beyond all finite numbers. -/
def quotient : Value → Int × Nat
  | .int i => (i.toInt, 1)
  | .float x =>
    match x.classify with
    | .finite negative m e =>
      let n : Int := if 0 ≤ e then m * twoTo e.toNat else m
      (if negative then -n else n, if 0 ≤ e then 1 else twoTo (-e).toNat)
    | .infinite negative => (if negative then -(twoTo 1100) else twoTo 1100, 1)
    | .nan => (0, 1)
  | _ => (0, 1)

/-- Lists of numbers in the order of a dictionary. -/
def dictionaryLe : List Nat → List Nat → Bool
  | [], _ => true
  | _ :: _, [] => false
  | a :: as, b :: bs => a < b || (a == b && dictionaryLe as bs)

/-- Value `a` does not come after value `b`. -/
def valueLe (a b : Value) : Bool :=
  if rank a ≠ rank b then rank a < rank b
  else
    match a, b with
    | .text s, .text t => dictionaryLe (s.toList.map Char.toNat) (t.toList.map Char.toNat)
    | .bytes s, .bytes t => dictionaryLe (s.map UInt8.toNat) (t.map UInt8.toNat)
    | _, _ =>
      let (n, d) := quotient a
      let (m, e) := quotient b
      n * e ≤ m * d

/-- The place, counted from zero, of the column that a key sorts by. -/
def sortPlace (labels : List (List Char)) (position : Nat) (k : SortKey) : Except Fault Nat :=
  match k.key with
  | .inl place =>
    if 1 ≤ place ∧ place ≤ labels.length then .ok (place - 1)
    else .error (.sortPlace position labels.length)
  | .inr name =>
    match labels.findIdx? (sameName name) with
    | some n => .ok n
    | none => .error (.sortName position)

/-- Row `a` does not come after row `b` by these columns. -/
def rowLe : List (Nat × Bool) → List Value → List Value → Bool
  | [], _, _ => true
  | (place, descending) :: keys, a, b =>
    let x := a[place]?.getD .null
    let y := b[place]?.getD .null
    let le := if descending then valueLe y x else valueLe x y
    let ge := if descending then valueLe x y else valueLe y x
    if le && ge then rowLe keys a b else le

/-- The labels of a query and its rows. -/
def query (db : Database) (q : Query) : Except Fault (List (List Char) × List (List Value)) := do
  let first ← db.resolvePart q.first
  let others ← q.others.mapM db.resolvePart
  let labels := first.2.map (·.2)
  if others.any fun p => p.2.length ≠ labels.length then .error .unevenParts
  let places ← (q.order.zip (List.range q.order.length)).mapM fun (k, n) =>
    (sortPlace labels (n + 1) k).map (·, k.descending)
  let rows := (first :: others).flatMap fun p => partRows p.1 (p.2.map (·.1))
  let sorted := if places.isEmpty then rows else rows.mergeSort (rowLe places)
  let skipped := sorted.drop q.skip.toNat
  let cut := match q.limit? with
    | some n => if n < 0 then skipped else skipped.take n.toNat
    | none => skipped
  .ok (labels, cut)

/-! ### Statements -/

/-- The first name that stands in the list again. -/
def duplicate? : List Identifier → Option Identifier
  | [] => none
  | c :: cs => if cs.any (sameName c) then cs.find? (sameName c) else duplicate? cs

/-- What is wrong with a statement before it runs, or the labels of its rows. -/
def check (db : Database) : Statement → Except Fault (List (List Char))
  | .select q => (db.query q).map (·.1)
  | .create name columns =>
    match db.table? name, duplicate? columns with
    | some _, _ => .error (.tableExists name)
    | none, some column => .error (.duplicateColumn column)
    | none, none => .ok []
  | .insert name rows => do
    let t ← db.table name
    let width := (rows.head?.map List.length).getD 0
    if rows.any (·.length ≠ width) then .error .unevenRows
    else if width ≠ t.columns.length then .error (.valueCount name t.columns.length width)
    else .ok []
  | .delete name => (db.table name).map fun _ => []
  | .drop name => (db.table name).map fun _ => []

/-- What a statement gave. -/
structure Done where
  labels : List (List Char) := []
  rows : List (List Value) := []
  /-- How many rows it changed. -/
  affected : Nat := 0
  database : Database

/-- The outcome of changing a table, unless it breaks a reference. -/
def ifReferencesHold (name : Identifier) (d : Done) : Except Fault Done :=
  if d.database.referencesHold name then .ok d else .error .brokenReference

/-- Carries out a statement. -/
def execute (db : Database) (s : Statement) : Except Fault Done := do
  let _ ← db.check s
  match s with
  | .select q =>
    let (labels, rows) ← db.query q
    .ok { labels, rows, database := db }
  | .create name columns =>
    .ok { database := { db with tables := db.tables ++ [{ name, columns }] } }
  | .insert name rows =>
    let t ← db.table name
    ifReferencesHold name
      { affected := rows.length, database := db.replace { t with rows := t.rows ++ rows } }
  | .delete name =>
    let t ← db.table name
    ifReferencesHold name
      { affected := t.rows.length, database := db.replace { t with rows := [] } }
  | .drop name =>
    ifReferencesHold name
      { database :=
          { db with tables := db.tables.filter fun t => !sameName t.name name } }

/-! ### Plans -/

/-- A step of a plan as the database reports it. -/
def planStep (id parent : Nat) (detail : List Char) : Record :=
  ⟨[("id", .int (Int64.ofNat id)), ("parent", .int (Int64.ofNat parent)), ("notused", .int 0),
    ("detail", .text (String.ofList detail))]⟩

/-- How a part of a query reads its rows. -/
def scanText (db : Database) (p : Part) : List Char :=
  match p.source? with
  | none => "SCAN CONSTANT ROW".toList
  | some name =>
    let index? := if p.items.any (·.term == .count) then
      (db.table? name).bind Table.countingIndex? else none
    "SCAN ".toList ++ name ++
      (match index? with
        | some i => " USING COVERING INDEX ".toList ++ i.name
        | none => [])

/-- The number of the step that a query of one part has. -/
def scanId (db : Database) (p : Part) : Nat :=
  match p.source? with
  | none => 2
  | some name =>
    if p.items.any (·.term == .count) && ((db.table? name).bind Table.countingIndex?).isSome then 5
    else 3

/-- The steps of the further parts of a compound, numbered from `id` on. -/
def unionSteps (db : Database) : Nat → List Part → Plan
  | _, [] => []
  | id, p :: ps =>
    planStep id 1 "UNION ALL".toList :: planStep (id + 1) id (db.scanText p) ::
      unionSteps db (id + 6) ps

/-- The steps that merge the sorted rows of the parts, numbered from `id` on below `parent`. -/
def mergeSteps (db : Database) (id parent : Nat) (first : Part) : List Part → Plan
  | [] => [planStep id parent (db.scanText first)]
  | p :: ps =>
    planStep id parent "MERGE (UNION ALL)".toList ::
      planStep (id + 2) id "LEFT".toList :: planStep (id + 4) (id + 2) (db.scanText first) ::
      planStep (id + 10) id "RIGHT".toList :: mergeSteps db (id + 12) (id + 10) p ps

/-- The plan of a query. -/
def queryPlan (db : Database) (q : Query) : Plan :=
  match q.others with
  | [] => [planStep (db.scanId q.first) 0 (db.scanText q.first)]
  | others =>
    if q.order.isEmpty then
      planStep 1 0 "COMPOUND QUERY".toList :: planStep 2 1 "LEFT-MOST SUBQUERY".toList ::
        planStep 4 2 (db.scanText q.first) :: db.unionSteps 9 others
    else db.mergeSteps 4 0 q.first others

/-- The plan of a statement. A table that is linked to no other is cleared without a scan. -/
def plan (db : Database) (s : Statement) : Except Fault Plan := do
  let _ ← db.check s
  match s with
  | .select q => .ok (db.queryPlan q)
  | .create .. => .ok []
  | .drop _ => .ok []
  | .insert _ rows =>
    .ok (if rows.length ≤ 1 then []
      else [planStep 3 0 ("SCAN ".toList ++ natText rows.length ++ "-ROW VALUES CLAUSE".toList)])
  | .delete name =>
    let t ← db.table name
    .ok (if db.isLinked t then [planStep 3 0 ("SCAN ".toList ++ name)] else [])

/-! ### Texts -/

/-- A row under its labels. -/
def record (labels : List (List Char)) (row : List Value) : Record :=
  ⟨labels.zipWith (fun l v => (String.ofList l, v)) row⟩

/-- The statement of a text. -/
def readText (sql : Sql) : Except Fault Statement :=
  match Statement.read sql with
  | .ok s => .ok s
  | .error fault => .error (.notRead fault)

/-- Carries out the statement of a text. -/
def executeText (db : Database) (sql : Sql) : Except Fault Done := readText sql >>= db.execute

/-- The plan of the statement of a text. -/
def planText (db : Database) (sql : Sql) : Except Fault Plan := readText sql >>= db.plan

/-- The labels of the rows that a text would give. -/
def labelsText (db : Database) (sql : Sql) : Except Fault (List (List Char)) :=
  readText sql >>= db.check

end Database

end QueryGate.Relational
