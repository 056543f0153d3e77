import QueryGate.Admission.Scan
import QueryGate.Decimal.Layout
import QueryGate.Value.Basic

/-!
# Statements of a file database

The statements that the file database carries out, and their text. Names of columns are written in
backticks, names of tables bare, and values as literals.
-/

namespace QueryGate.Relational

/-- The name of a table or a column. -/
abbrev Identifier := List Char

/-- What a column of a result shows. -/
inductive Term where
  /-- All columns of the table. -/
  | all
  | column (name : Identifier)
  | literal (v : Value)
  /-- The number of rows. -/
  | count
  deriving DecidableEq, Repr

/-- A term and the label of its column. -/
structure Item where
  term : Term
  label : List Char
  deriving DecidableEq, Repr

/-- One `SELECT` of a compound. -/
structure Part where
  items : List Item
  source? : Option Identifier := none
  deriving DecidableEq, Repr

/-- By what rows are sorted. -/
structure SortKey where
  /-- A column by its place, counted from one, or by its label. -/
  key : Nat ⊕ Identifier
  descending : Bool := false
  deriving DecidableEq, Repr

/-- A query: parts whose rows follow one another, then sorted and cut. -/
structure Query where
  first : Part
  others : List Part := []
  order : List SortKey := []
  /-- At most so many rows; a negative number is no limit. -/
  limit? : Option Int := none
  skip : Int := 0
  deriving DecidableEq, Repr

/-- A statement. -/
inductive Statement where
  | select (q : Query)
  | create (table : Identifier) (columns : List Identifier)
  | insert (table : Identifier) (rows : List (List Value))
  | delete (table : Identifier)
  | drop (table : Identifier)
  deriving DecidableEq, Repr

/-! ### Text -/

/-- A text in quotes, with the quotes inside doubled. -/
def inQuotes (quote : Char) (s : List Char) : List Char :=
  quote :: (s.flatMap (fun c => if c = quote then [quote, quote] else [c]) ++ [quote])

/-- The text with separators between its pieces. -/
def separated (separator : List Char) (pieces : List (List Char)) : List Char :=
  separator.intercalate pieces

/-- A byte in two hexadecimal digits. -/
def byteText (b : UInt8) : List Char :=
  [Nat.digitChar (b.toNat / 16), Nat.digitChar (b.toNat % 16)]

/-- A value as a literal. What the database has no literal for is written as a text. -/
def literalText : Value → List Char
  | .null => "NULL".toList
  | .bool b => if b then ['1'] else ['0']
  | .int i => Text.intText i.toInt
  | .uint n => Text.natText n.toNat
  | .float x =>
    match x.classify with
    | .nan => "NULL".toList
    | .infinite false => "9e999".toList
    | .infinite true => "-9e999".toList
    | .finite negative m e => Decimal.structured.finiteText negative m e
  | .decimal s => inQuotes '\'' s.toList
  | .text s => inQuotes '\'' s.toList
  | .temporal s => inQuotes '\'' s.toList
  | .bytes bs => 'X' :: inQuotes '\'' (bs.flatMap byteText)

/-- A column's name in backticks. -/
def columnText (name : Identifier) : List Char := inQuotes '\x60' name

def Item.text (i : Item) : List Char :=
  let label := " AS ".toList ++ columnText i.label
  match i.term with
  | .all => ['*']
  | .column name =>
    if name = i.label then columnText name else columnText name ++ label
  | .literal v => literalText v ++ label
  | .count => "COUNT(*) AS ".toList ++ i.label

def Part.text (p : Part) : List Char :=
  "SELECT ".toList ++ separated ", ".toList (p.items.map Item.text) ++
    (match p.source? with
      | some table => " FROM ".toList ++ table
      | none => [])

def SortKey.text (k : SortKey) : List Char :=
  (match k.key with
    | .inl place => Text.natText place
    | .inr label => columnText label) ++
  (if k.descending then " DESC".toList else [])

def Query.text (q : Query) : List Char :=
  separated " UNION ALL ".toList ((q.first :: q.others).map Part.text) ++
    (if q.order.isEmpty then []
      else " ORDER BY ".toList ++ separated ", ".toList (q.order.map SortKey.text)) ++
    (match q.limit? with
      | some n => " LIMIT ".toList ++ Text.intText n
      | none => []) ++
    (if q.skip = 0 then [] else " OFFSET ".toList ++ Text.intText q.skip)

/-- A list in parentheses. -/
def tupleText (pieces : List (List Char)) : List Char :=
  '(' :: (separated ", ".toList pieces ++ [')'])

/-- The statement as it is sent. -/
def Statement.sql : Statement → Sql
  | .select q => q.text
  | .create table columns =>
    "CREATE TABLE ".toList ++ table ++ ' ' :: tupleText (columns.map columnText)
  | .insert table rows =>
    "INSERT INTO ".toList ++ table ++ " VALUES ".toList ++
      separated ", ".toList (rows.map fun r => tupleText (r.map literalText))
  | .delete table => "DELETE FROM ".toList ++ table
  | .drop table => "DROP TABLE ".toList ++ table

/-- The query for some columns of a table. -/
def Statement.columnsOf (table : Identifier) (columns : List Identifier) : Statement :=
  .select ⟨⟨columns.map fun c => ⟨.column c, c⟩, some table⟩, [], [], none, 0⟩

/-- The query for all columns of a table. -/
def Statement.allOf (table : Identifier) : Statement :=
  .select ⟨⟨[⟨.all, []⟩], some table⟩, [], [], none, 0⟩

/-- The query for the number of rows of a table. -/
def Statement.countOf (table : Identifier) : Statement :=
  .select ⟨⟨[⟨.count, ['n']⟩], some table⟩, [], [], none, 0⟩

/-- The query that gives rows of literals under these labels. -/
def Statement.literals (labels : List Identifier) (rows : List (List Value)) : Statement :=
  let parts := rows.map fun r => (⟨(labels.zip r).map fun p => ⟨.literal p.2, p.1⟩, none⟩ : Part)
  match parts with
  | [] => .select ⟨⟨[], none⟩, [], [], none, 0⟩
  | first :: others => .select ⟨first, others, [], none, 0⟩

end QueryGate.Relational
