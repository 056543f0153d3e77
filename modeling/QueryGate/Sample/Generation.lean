import QueryGate.Json
import QueryGate.Sample.Monitor
import QueryGate.Sample.Request
import QueryGate.Sample.Row
import QueryGate.Sample.Schema

/-!
# Generating sample data

A generation is a list of steps that depends only on the request, the backend and the random words:
reports of progress, and statements for the database. The statements create the tables, clear them
from the last to the first, and fill them from the first to the last in batches.

`play` carries the steps out against a database that may fail; the first failure ends it.
-/

namespace QueryGate.Sample

open QueryGate.Random

/-- A statement that the generation sends. -/
inductive Statement where
  | create (t : Table) (withIndexes : Bool)
  | createIndex (t : Table) (i : Index)
  | clear (t : Table)
  | insert (t : Table) (rows : List Row)
  deriving DecidableEq, Repr

/-- The text of a statement. -/
def Statement.sql : Statement → String
  | .create t withIndexes =>
    "CREATE TABLE IF NOT EXISTS " ++ t.name ++ " (" ++ t.declaration ++
      (if withIndexes then
        String.join (t.indexes.map fun i => ", INDEX " ++ i.name ++ " (" ++ i.column ++ ")")
      else "") ++ ")"
  | .createIndex t i =>
    "CREATE INDEX IF NOT EXISTS " ++ i.name ++ " ON " ++ t.name ++ " (" ++ i.column ++ ")"
  | .clear t => "DELETE FROM " ++ t.name
  | .insert t rows => "INSERT INTO " ++ t.name ++ " VALUES " ++ ", ".intercalate (rows.map rowSql)

/-- The statements that create a table and its indexes. -/
def createStatements (b : Backend) (t : Table) : List Statement :=
  match b with
  | .mysql => [.create t true]
  | .sqlite => .create t false :: t.indexes.map (.createIndex t)

/-- The statements that create all tables. -/
def schema (b : Backend) : List Statement := Table.all.flatMap (createStatements b)

/-- A step of a generation. -/
inductive Step where
  | report (progress : Nat) (task : String)
  | send (s : Statement)
  deriving DecidableEq, Repr

/-- The number of rows from which on a batch is sent. -/
def batchSize : Nat := 5000

/-- The part of the progress that filling one table takes. -/
structure Span where
  start : Nat
  stop : Nat
  deriving DecidableEq, Repr

/-- The progress when `done` of `total` rows are there. -/
def Span.at (s : Span) (done total : Nat) : Nat :=
  if total = 0 then s.stop else s.start + (s.stop - s.start) * done / total

section Draws

variable {σ : Type} [Source σ]

/-- Draws one value for each number. -/
def drawAll {α : Type} (draw : Nat → Draw σ α) : List Nat → Draw σ (List α)
  | [], s => ([], s)
  | id :: ids, s =>
    let first := draw id s
    let others := drawAll draw ids first.2
    (first.1 :: others.1, others.2)

/-- The numbers from `first` on, `count` of them. -/
def idsFrom (first count : Nat) : List Nat := List.range' first count

/-- The steps that put rows `done + 1` to `total` into a table, batch by batch. -/
def fillSteps (t : Table) (span : Span) (total : Nat) (draw : Nat → Draw σ Row) :
    (batches done : Nat) → Draw σ (List Step)
  | 0, _, s => ([], s)
  | batches + 1, done, s =>
    let count := min batchSize (total - done)
    if count = 0 then ([], s)
    else
      let rows := drawAll draw (idsFrom (done + 1) count) s
      let others := fillSteps t span total draw batches (done + count) rows.2
      (.send (.insert t rows.1) ::
        .report (span.at (done + count) total) ("Generating " ++ t.name ++ "...") :: others.1,
        others.2)

/-- The steps that put all rows into a table. -/
def fill (t : Table) (span : Span) (total : Nat) (draw : Nat → Draw σ Row) : Draw σ (List Step) :=
  fillSteps t span total draw (total / batchSize + 1) 0

/-- What has been drawn of the order items. -/
structure ItemDraft where
  /-- Steps so far, the last first. -/
  steps : List Step := []
  /-- Rows that are not sent yet, the last first. -/
  batch : List Row := []
  /-- How many of them there are. -/
  waiting : Nat := 0
  /-- The number of items so far. -/
  items : Nat := 0

/-- The span of the order items. -/
def itemSpan : Span := ⟨70, 100⟩

/-- The rows of further items wait. -/
def ItemDraft.add (d : ItemDraft) (items : List OrderItem) : ItemDraft :=
  { d with
    batch := (items.map OrderItem.row).reverse ++ d.batch
    waiting := d.waiting + items.length
    items := d.items + items.length }

/-- Sends the waiting rows, if there are any. -/
def ItemDraft.flush (d : ItemDraft) (order orders : Nat) : ItemDraft :=
  let report : Step := .report (itemSpan.at order orders) "Generating order items..."
  let sent := if d.batch.isEmpty then d.steps
    else .send (.insert .orderItems d.batch.reverse) :: d.steps
  { d with steps := report :: sent, batch := [], waiting := 0 }

/-- Behind an order the waiting rows are sent if there are enough of them or it is the last. -/
def ItemDraft.settle (d : ItemDraft) (order orders : Nat) : ItemDraft :=
  if batchSize ≤ d.waiting || order == orders then d.flush order orders else d

/-- Draws the items of the given orders, the last of which is `last`. -/
def itemDraft (count : Draw σ Nat) (item : (order id : Nat) → Draw σ OrderItem) (last : Nat) :
    List Nat → ItemDraft → Draw σ ItemDraft
  | [], d, s => (d, s)
  | order :: orders, d, s =>
    let n := count s
    let items := drawAll (item order) (idsFrom (d.items + 1) n.1) n.2
    itemDraft count item last orders ((d.add items.1).settle order last) items.2

/-- The steps that put all order items into their table, and the number of items. -/
def itemSteps (r : Request) : Draw σ (List Step × Nat) := fun s =>
  let draft := itemDraft (drawItemCount r.itemsPerOrder) (OrderItem.draw r.products) r.orders
    (idsFrom 1 r.orders) {} s
  ((draft.1.steps.reverse, draft.1.items), draft.2)

/-- A row drawn from a value. -/
def drawRow {α : Type} (row : α → Row) (draw : Nat → Draw σ α) (id : Nat) : Draw σ Row := fun s =>
  let value := draw id s
  (row value.1, value.2)

/-- All steps of a generation and the number of order items. -/
def generation (b : Backend) (r : Request) : σ → List Step × Nat := fun s =>
  let prepare : List Step :=
    .report 0 "Preparing tables..." :: (schema b).map .send ++
      .report 2 "Clearing existing data..." :: Table.all.reverse.map (.send ∘ .clear) ++
      [.report 5 "Generating customers..."]
  let customers := fill .customers ⟨5, 25⟩ r.customers (drawRow Customer.row Customer.draw) s
  let products :=
    fill .products ⟨25, 40⟩ r.products (drawRow Product.row Product.draw) customers.2
  let orders :=
    fill .orders ⟨40, 70⟩ r.orders (drawRow Order.row (Order.draw r.customers)) products.2
  let items := (itemSteps r orders.2).1
  (prepare ++ customers.1 ++ .report 25 "Generating products..." :: products.1 ++
    .report 40 "Generating orders..." :: orders.1 ++
    .report 70 "Generating order items..." :: items.1 ++ [.report 100 "Completed!"], items.2)

end Draws

/-- The rows that a generation wrote. -/
structure Report where
  customers : Nat
  products : Nat
  orders : Nat
  orderItems : Nat
  elapsed : Nat := 0
  deriving DecidableEq, Repr

/-- The report in structured output. -/
def Report.toJson (r : Report) : Json := .obj
  [("customers", .ofNat r.customers), ("products", .ofNat r.products), ("orders", .ofNat r.orders),
   ("order_items", .ofNat r.orderItems), ("elapsed_ms", .ofNat r.elapsed)]

/-- A statement that reached the database, and the status at that moment. -/
structure Call where
  statement : Statement
  status : Status
  deriving DecidableEq, Repr

/-- What came of carrying out steps. -/
structure Played where
  /-- The calls, the last first. -/
  calls : List Call
  status : Status
  failure : Option Failure
  deriving DecidableEq, Repr

/-- A database that answers each call, given by its number from one on and its statement. -/
abbrev Database := Nat → Statement → Option Failure

/-- Carries out steps until the database fails. -/
def play (db : Database) : List Step → (number : Nat) → List Call → Status → Played
  | [], _, calls, status => ⟨calls, status, none⟩
  | .report progress task :: steps, number, calls, status =>
    play db steps number calls (status.report progress task)
  | .send statement :: steps, number, calls, status =>
    let calls := ⟨statement, status⟩ :: calls
    match db number statement with
    | some e => ⟨calls, status, some e⟩
    | none => play db steps (number + 1) calls status

/-- What came of a request: the calls in order, the report or the failure, and the status. -/
structure Outcome where
  calls : List Call
  result : Except Failure Report
  status : Status

/-- Answers a request. The claim on the monitor is given back however the generation ends. -/
def generate {σ : Type} [Source σ] (b : Backend) (db : Database) (source : σ) (status : Status)
    (r : Request) : Outcome :=
  match r.check with
  | .error e => ⟨[], .error e.failure, status⟩
  | .ok _ =>
    if status.generating then ⟨[], .error alreadyGenerating, status⟩
    else
      let plan := generation b r source
      let played := play db plan.1 1 [] .starting
      let report : Report := ⟨r.customers, r.products, r.orders, plan.2, 0⟩
      ⟨played.calls.reverse,
        match played.failure with
        | some e => .error e
        | none => .ok report,
        played.status.stop⟩

/-- The seed when none is given. -/
def defaultSeed : UInt64 := 0x5A4DB0C5

end QueryGate.Sample
