import QueryGate.Connection.Backend
import QueryGate.Text.Integer

/-!
# The sample tables

Four tables of a small shop. The statements that create them differ between backends only in where
the indexes are declared.
-/

namespace QueryGate.Sample

/-- The type of a column. -/
inductive ColumnType where
  | bigint
  | integer
  | smallint
  | date
  | varchar (length : Nat)
  | decimal (digits places : Nat)
  deriving DecidableEq, Repr

/-- The name of a type in a statement. -/
def ColumnType.text : ColumnType → String
  | .bigint => "BIGINT"
  | .integer => "INTEGER"
  | .smallint => "SMALLINT"
  | .date => "DATE"
  | .varchar length => "VARCHAR(" ++ String.ofList (Text.natText length) ++ ")"
  | .decimal digits places =>
    "DECIMAL(" ++ String.ofList (Text.natText digits) ++ "," ++
      String.ofList (Text.natText places) ++ ")"

/-- What a column asks of its values. -/
inductive Demand where
  | primaryKey
  | notNull
  | nothing
  deriving DecidableEq, Repr

def Demand.text : Demand → String
  | .primaryKey => " PRIMARY KEY"
  | .notNull => " NOT NULL"
  | .nothing => ""

/-- A column of a table. -/
structure Column where
  name : String
  type : ColumnType
  demand : Demand := .notNull
  deriving DecidableEq, Repr

def Column.text (c : Column) : String := c.name ++ " " ++ c.type.text ++ c.demand.text

/-- The tables, parents before children. -/
inductive Table where
  | customers
  | products
  | orders
  | orderItems
  deriving DecidableEq, Repr

/-- A column whose values are keys of another table. -/
structure Reference where
  column : String
  parent : Table
  deriving DecidableEq, Repr

/-- An index on one column. -/
structure Index where
  name : String
  column : String
  deriving DecidableEq, Repr

namespace Table

/-- All tables in the order in which they are filled. -/
def all : List Table := [.customers, .products, .orders, .orderItems]

def name : Table → String
  | .customers => "sample_customers"
  | .products => "sample_products"
  | .orders => "sample_orders"
  | .orderItems => "sample_order_items"

/-- The key column that every table starts with. -/
def idColumn : Column := ⟨"id", .bigint, .primaryKey⟩

def columns : Table → List Column
  | .customers =>
    [idColumn, ⟨"first_name", .varchar 50, .notNull⟩, ⟨"last_name", .varchar 50, .notNull⟩,
     ⟨"email", .varchar 120, .notNull⟩, ⟨"phone", .varchar 20, .nothing⟩,
     ⟨"city", .varchar 50, .nothing⟩, ⟨"country", .varchar 50, .nothing⟩,
     ⟨"registration_date", .date, .nothing⟩, ⟨"status", .varchar 20, .notNull⟩]
  | .products =>
    [idColumn, ⟨"name", .varchar 200, .notNull⟩, ⟨"category", .varchar 50, .notNull⟩,
     ⟨"brand", .varchar 50, .nothing⟩, ⟨"price", .decimal 10 2, .notNull⟩,
     ⟨"cost", .decimal 10 2, .nothing⟩, ⟨"stock_quantity", .integer, .notNull⟩,
     ⟨"sku", .varchar 20, .notNull⟩, ⟨"is_active", .smallint, .notNull⟩]
  | .orders =>
    [idColumn, ⟨"customer_id", .bigint, .notNull⟩, ⟨"order_date", .date, .nothing⟩,
     ⟨"order_status", .varchar 20, .notNull⟩, ⟨"total_amount", .decimal 12 2, .notNull⟩,
     ⟨"payment_method", .varchar 20, .nothing⟩]
  | .orderItems =>
    [idColumn, ⟨"order_id", .bigint, .notNull⟩, ⟨"product_id", .bigint, .notNull⟩,
     ⟨"quantity", .integer, .notNull⟩, ⟨"unit_price", .decimal 10 2, .notNull⟩,
     ⟨"discount_percent", .integer, .notNull⟩, ⟨"subtotal", .decimal 12 2, .notNull⟩]

def references : Table → List Reference
  | .customers => []
  | .products => []
  | .orders => [⟨"customer_id", .customers⟩]
  | .orderItems => [⟨"order_id", .orders⟩, ⟨"product_id", .products⟩]

def indexes : Table → List Index
  | .customers => [⟨"idx_customers_city", "city"⟩, ⟨"idx_customers_status", "status"⟩]
  | .products => [⟨"idx_products_category", "category"⟩]
  | .orders => [⟨"idx_orders_customer", "customer_id"⟩, ⟨"idx_orders_date", "order_date"⟩]
  | .orderItems =>
    [⟨"idx_order_items_order", "order_id"⟩, ⟨"idx_order_items_product", "product_id"⟩]

/-- The columns and references as they are declared. -/
def declaration (t : Table) : String :=
  ", ".intercalate
    (t.columns.map Column.text ++
      t.references.map fun r =>
        "FOREIGN KEY (" ++ r.column ++ ") REFERENCES " ++ r.parent.name ++ " (id)")

end Table

end QueryGate.Sample
