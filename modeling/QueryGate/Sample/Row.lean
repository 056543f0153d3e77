import QueryGate.Random.Source
import QueryGate.Text.Integer

/-!
# Sample rows

The rows of the sample tables: what is drawn for each, and how a row is written as a list of SQL
values. Amounts are counted in cents.
-/

namespace QueryGate.Sample

open QueryGate.Random Text

/-! ### Cells -/

/-- A calendar day. -/
structure Date where
  year : Nat
  month : Nat
  day : Nat
  deriving DecidableEq, Repr

/-- A value of a row. -/
inductive Cell where
  | int (n : Nat)
  | text (s : String)
  /-- An amount in cents. -/
  | amount (cents : Nat)
  | date (d : Date)
  deriving DecidableEq, Repr

/-- A number with zeros in front up to a width. -/
def paddedString (width n : Nat) : String := String.ofList (padded width n)

def natString (n : Nat) : String := Nat.repr n

/-- A text as an SQL string: in apostrophes, with those inside doubled. -/
def quoted (s : String) : String :=
  String.ofList ('\'' :: (s.toList.flatMap (fun c => if c = '\'' then ['\'', '\''] else [c]) ++
    ['\'']))

def Date.text (d : Date) : String :=
  natString d.year ++ "-" ++ paddedString 2 d.month ++ "-" ++ paddedString 2 d.day

/-- An amount with two places. -/
def amountText (cents : Nat) : String :=
  natString (cents / 100) ++ "." ++ paddedString 2 (cents % 100)

/-- The value as it stands in a statement. -/
def Cell.sql : Cell → String
  | .int n => natString n
  | .text s => quoted s
  | .amount cents => amountText cents
  | .date d => quoted d.text

/-- The values of a row. -/
abbrev Row := List Cell

/-- A row as it stands in a statement. -/
def rowSql (r : Row) : String := "(" ++ ", ".intercalate (r.map Cell.sql) ++ ")"

/-! ### Words -/

def firstNames : Array String :=
  #["John", "Jane", "Michael", "Emily", "David", "Sarah", "James", "Emma", "Robert", "Olivia",
    "William", "Sophia", "Joseph", "Isabella", "Thomas", "Mia", "Charles", "Charlotte", "Daniel",
    "Amelia", "Taro", "Hanako", "Yuki", "Kenji", "Sakura", "Takeshi", "Yui", "Hiroshi", "Aoi",
    "Ren"]

def lastNames : Array String :=
  #["Smith", "Johnson", "Williams", "Brown", "Jones", "Garcia", "Miller", "Davis", "Rodriguez",
    "Martinez", "Hernandez", "Lopez", "Gonzalez", "Wilson", "Anderson", "Tanaka", "Yamada",
    "Sato", "Suzuki", "Takahashi", "Watanabe", "Ito", "Nakamura", "Kobayashi", "Kato"]

def cities : Array String :=
  #["Tokyo", "Osaka", "New York", "London", "Paris", "Berlin", "Sydney", "Singapore",
    "Hong Kong", "Seoul", "Bangkok", "Mumbai", "Dubai", "Los Angeles", "Chicago", "Toronto",
    "Vancouver", "Amsterdam"]

def countries : Array String :=
  #["Japan", "USA", "UK", "Germany", "France", "Australia", "Canada", "Singapore", "China",
    "South Korea", "Thailand", "India", "UAE"]

def categories : Array String :=
  #["Electronics", "Clothing", "Home & Garden", "Sports", "Books", "Toys", "Food", "Beauty",
    "Automotive", "Health"]

def brands : Array String :=
  #["TechCorp", "FashionBrand", "HomeStyle", "SportMax", "BookWorld", "ToyLand", "FoodCo",
    "BeautyPlus", "AutoParts", "HealthFirst"]

def paymentMethods : Array String :=
  #["CREDIT_CARD", "DEBIT_CARD", "PAYPAL", "BANK_TRANSFER", "CASH"]

/-- Repeated words are drawn more often. -/
def customerStatuses : Array String := #["ACTIVE", "ACTIVE", "ACTIVE", "INACTIVE", "SUSPENDED"]

/-- Repeated words are drawn more often. -/
def orderStatuses : Array String :=
  #["PENDING", "CONFIRMED", "SHIPPED", "DELIVERED", "DELIVERED", "DELIVERED", "CANCELLED",
    "REFUNDED"]

/-! ### Rows -/

structure Customer where
  id : Nat
  first : String
  last : String
  phone : Nat × Nat × Nat
  city : String
  country : String
  registered : Date
  status : String
  deriving DecidableEq, Repr

structure Product where
  id : Nat
  category : String
  brand : String
  priceCents : Nat
  active : Bool
  stock : Nat
  deriving DecidableEq, Repr

structure Order where
  id : Nat
  customerId : Nat
  totalCents : Nat
  date : Date
  status : String
  payment : String
  deriving DecidableEq, Repr

structure OrderItem where
  id : Nat
  orderId : Nat
  productId : Nat
  quantity : Nat
  unitCents : Nat
  discountPercent : Nat
  deriving DecidableEq, Repr

namespace Customer

def lowerName (s : String) : String := String.ofList (s.toList.map lowerAscii)

def email (c : Customer) : String :=
  lowerName c.first ++ "." ++ lowerName c.last ++ natString c.id ++ "@example.com"

def phoneText (c : Customer) : String :=
  "+1-" ++ paddedString 3 c.phone.1 ++ "-" ++ paddedString 3 c.phone.2.1 ++ "-" ++
    paddedString 4 c.phone.2.2

def row (c : Customer) : Row :=
  [.int c.id, .text c.first, .text c.last, .text c.email, .text c.phoneText, .text c.city,
   .text c.country, .date c.registered, .text c.status]

end Customer

namespace Product

/-- A product costs six tenths of its price, rounded down. -/
def costCents (p : Product) : Nat := p.priceCents * 6 / 10

def name (p : Product) : String :=
  p.brand ++ " " ++ p.category ++ " Product " ++ natString p.id

def sku (p : Product) : String := "SKU-" ++ paddedString 8 p.id

def row (p : Product) : Row :=
  [.int p.id, .text p.name, .text p.category, .text p.brand, .amount p.priceCents,
   .amount p.costCents, .int p.stock, .text p.sku, .int (if p.active then 1 else 0)]

end Product

def Order.row (o : Order) : Row :=
  [.int o.id, .int o.customerId, .date o.date, .text o.status, .amount o.totalCents,
   .text o.payment]

namespace OrderItem

/-- The price of all pieces less the discount, rounded down. -/
def subtotalCents (i : OrderItem) : Nat :=
  i.unitCents * i.quantity * (100 - i.discountPercent) / 100

def row (i : OrderItem) : Row :=
  [.int i.id, .int i.orderId, .int i.productId, .int i.quantity, .amount i.unitCents,
   .int i.discountPercent, .amount i.subtotalCents]

end OrderItem

/-! ### Draws -/

section Draws

variable {σ : Type} [Source σ]

/-- A day that every month has. -/
def drawDate (firstYear lastYear : Nat) : Draw σ Date := fun s =>
  let year := drawRange .word firstYear lastYear s
  let month := drawRange .word 1 12 year.2
  let day := drawRange .word 1 28 month.2
  (⟨year.1, month.1, day.1⟩, day.2)

/-- The chance that a product is active: nine tenths, as a double of 64 bits. -/
def activeChance : Nat := 16602069666338596864

def Customer.draw (id : Nat) : Draw σ Customer := fun s =>
  let first := drawFrom firstNames s
  let last := drawFrom lastNames first.2
  let area := drawRange .word 100 999 last.2
  let exchange := drawRange .word 100 999 area.2
  let line := drawRange .word 1000 9999 exchange.2
  let city := drawFrom cities line.2
  let country := drawFrom countries city.2
  let registered := drawDate 2018 2024 country.2
  let status := drawFrom customerStatuses registered.2
  (⟨id, first.1, last.1, (area.1, exchange.1, line.1), city.1, country.1, registered.1, status.1⟩,
    status.2)

def Product.draw (id : Nat) : Draw σ Product := fun s =>
  let category := drawFrom categories s
  let brand := drawFrom brands category.2
  let priceCents := drawRange .double 100 100000 brand.2
  let active := drawChance activeChance priceCents.2
  let stock := drawRange .word 0 10000 active.2
  (⟨id, category.1, brand.1, priceCents.1, active.1, stock.1⟩, stock.2)

def Order.draw (customers id : Nat) : Draw σ Order := fun s =>
  let customerId := drawRange .double 1 customers s
  let totalCents := drawRange .double 1000 500000 customerId.2
  let date := drawDate 2020 2024 totalCents.2
  let status := drawFrom orderStatuses date.2
  let payment := drawFrom paymentMethods status.2
  (⟨id, customerId.1, totalCents.1, date.1, status.1, payment.1⟩, payment.2)

def OrderItem.draw (products orderId id : Nat) : Draw σ OrderItem := fun s =>
  let productId := drawRange .double 1 products s
  let quantity := drawRange .double 1 5 productId.2
  let unitCents := drawRange .double 100 50000 quantity.2
  let discountPercent := drawRange .double 0 20 unitCents.2
  (⟨id, orderId, productId.1, quantity.1, unitCents.1, discountPercent.1⟩, discountPercent.2)

/-- The number of items of an order, `itemsPerOrder` on average. -/
def drawItemCount (itemsPerOrder : Nat) : Draw σ Nat := drawRange .double 1 (itemsPerOrder * 2)

end Draws

end QueryGate.Sample
