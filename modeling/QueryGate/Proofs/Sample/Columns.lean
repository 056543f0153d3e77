import QueryGate.Proofs.Sample.Drawn
import QueryGate.Proofs.Sample.Tuples
import QueryGate.Server.Calendar

/-!
# Rows fit their tables

The statements that fill a table name no columns, so the values of a row must stand in the order in
which the table declares its columns. Every row that is drawn, read back from its text, has one
value for each column, and each value is one that its column takes: whole numbers within their bits,
texts within their length, amounts within their digits, and days of the calendar.

* `ColumnType.Admits`, `Table.Takes`: what a column and a table take.
* `Customer.Typical` and so on: what is drawn for a row, whatever the random words are.
* `mul64?`, `sub64?`: arithmetic that fails where 64 bits do not hold the result.

Headlines: **`drawData_takes`** for all rows of a generation, **`tuples_fit`** for single rows and
the amounts in them.
-/

namespace QueryGate.Sample

open QueryGate.Random Text

/-! ## What columns take -/

/-- The number that is written. -/
def Literal.whole? : Literal → Option Nat
  | .number digits => readDigits? digits
  | .text _ => none

/-- The amount that is written, with two places behind the point. -/
def Literal.cents? : Literal → Option Nat
  | .number digits =>
    let whole := digits.takeWhile isAsciiDigit
    match digits.drop whole.length with
    | ['.', a, b] => readDigits? (whole ++ [a, b])
    | _ => none
  | .text _ => none

/-- The column takes the literal as it is: nothing is cut off, rounded or out of range. -/
def ColumnType.Admits : ColumnType → Literal → Prop
  | .bigint, l => ∃ n < twoTo 63, l.whole? = some n
  | .integer, l => ∃ n < twoTo 31, l.whole? = some n
  | .smallint, l => ∃ n < twoTo 15, l.whole? = some n
  | .varchar length, l => ∃ s, l = .text s ∧ s.length ≤ length
  | .decimal digits places, l => ∃ whole fraction, l = .number (whole ++ '.' :: fraction) ∧
      (readDigits? whole).isSome ∧ (readDigits? fraction).isSome ∧
      fraction.length = places ∧ whole.length + places ≤ digits
  | .date, l => ∃ day : Server.Day, day.isValid = true ∧ 1000 ≤ day.year ∧ day.year ≤ 9999 ∧
      l = .text day.text

/-- The text, read as a list of SQL values, consists of these literals, one for each column of the
table in the declared order, and each column takes its own. -/
structure Table.Takes (t : Table) (tuple : String) (literals : List Literal) : Prop where
  read : Relational.readTuple readWritten (Relational.tokens tuple.toList) = .ok (literals, [])
  columns : List.Forall₂ (fun column l => column.type.Admits l) t.columns literals

namespace Table

/-- The literal in a column. -/
def literal? (t : Table) (literals : List Literal) (column : String) : Option Literal :=
  ((t.columns.map (·.name)).zip literals).lookup column

/-- The number in a column. -/
def whole? (t : Table) (literals : List Literal) (column : String) : Option Nat :=
  (t.literal? literals column).bind Literal.whole?

/-- The amount in a column. -/
def cents? (t : Table) (literals : List Literal) (column : String) : Option Nat :=
  (t.literal? literals column).bind Literal.cents?

end Table

/-! ## Arithmetic in 64 bits -/

/-- Multiplies, unless the result does not fit. -/
def mul64? (a b : Nat) : Option Nat := if a * b < twoTo 64 then some (a * b) else none

/-- Subtracts, unless the result is below zero. -/
def sub64? (a b : Nat) : Option Nat := if b ≤ a then some (a - b) else none

/-- The cost of a product, from its price. -/
def cost64? (price : Nat) : Option Nat := (mul64? price 6).map (· / 10)

/-- The subtotal of an order item. -/
def subtotal64? (unit quantity discount : Nat) : Option Nat := do
  let full ← mul64? unit quantity
  let kept ← sub64? 100 discount
  let hundredfold ← mul64? full kept
  return hundredfold / 100

/-! ## Cells -/

/-- The two digits behind the point of an amount. -/
theorem padded_places (cents : Nat) :
    ∃ a b, padded 2 (cents % 100) = [a, b] ∧ Digits [a, b] (cents % 100) := by
  have hlength : (padded 2 (cents % 100)).length = 2 :=
    length_padded (by decide) (Nat.mod_lt _ (by decide))
  have hdigits := digits_padded 2 (cents % 100)
  match padded 2 (cents % 100), hlength, hdigits with
  | [a, b], _, hdigits => exact ⟨a, b, rfl, hdigits⟩

theorem whole?_int (n : Nat) : (Cell.int n).literal.whole? = some n :=
  readDigits?_eq_some_iff.mpr (digits_natText n)

theorem cents?_amount (cents : Nat) : (Cell.amount cents).literal.cents? = some cents := by
  obtain ⟨a, b, hplaces, hdigits⟩ := padded_places cents
  have hread := (digits_natText (cents / 100)).append_two hdigits
  rw [Nat.div_add_mod] at hread
  have hpoint : Stops ['.', a, b] := stops_cons.mpr (by decide)
  rw [Cell.literal, toList_amountText, hplaces, Literal.cents?, takeWhile_natText _ hpoint]
  simp only [List.drop_left]
  exact readDigits?_eq_some_iff.mpr hread

/-! ### Cells in columns -/

theorem Table.whole?_of_literal {t : Table} {literals : List Literal} {column : String} {n : Nat}
    (h : t.literal? literals column = some (Cell.int n).literal) :
    t.whole? literals column = some n := by
  rw [Table.whole?, h, Option.bind_some, whole?_int]

theorem Table.cents?_of_literal {t : Table} {literals : List Literal} {column : String}
    {cents : Nat} (h : t.literal? literals column = some (Cell.amount cents).literal) :
    t.cents? literals column = some cents := by
  rw [Table.cents?, h, Option.bind_some, cents?_amount]

theorem admits_int {n : Nat} {type : ColumnType} (h : type = .bigint ∧ n < twoTo 63 ∨
    type = .integer ∧ n < twoTo 31 ∨ type = .smallint ∧ n < twoTo 15) :
    type.Admits (Cell.int n).literal := by
  rcases h with ⟨rfl, h⟩ | ⟨rfl, h⟩ | ⟨rfl, h⟩
  all_goals exact ⟨n, h, whole?_int n⟩

theorem admits_text {s : String} {length : Nat} (h : s.toList.length ≤ length) :
    (ColumnType.varchar length).Admits (Cell.text s).literal :=
  ⟨s.toList, rfl, h⟩

theorem admits_choice {w : String} {choices : Array String} {length : Nat}
    (h : ∀ w ∈ choices.toList, w.toList.length ≤ length) (hw : w ∈ choices.toList) :
    (ColumnType.varchar length).Admits (Cell.text w).literal :=
  admits_text (h w hw)

theorem admits_amount {cents k : Nat} (hk : 0 < k) (h : cents < tenTo (k + 2)) :
    (ColumnType.decimal (k + 2) 2).Admits (Cell.amount cents).literal := by
  obtain ⟨a, b, hplaces, hfraction⟩ := padded_places cents
  have hlt : cents / 100 < tenTo k := by
    rw [tenTo_succ, tenTo_succ] at h
    omega
  have hwhole : (natText (cents / 100)).length ≤ k := (length_natText_le_iff hk).mpr hlt
  refine ⟨natText (cents / 100), [a, b], ?_, ?_, ?_, rfl, by omega⟩
  · rw [Cell.literal, toList_amountText, hplaces]
  · exact Option.isSome_of_eq_some (readDigits?_eq_some_iff.mpr (digits_natText _))
  · exact Option.isSome_of_eq_some (readDigits?_eq_some_iff.mpr hfraction)

/-- A day that every month has, in a year of four digits. -/
structure Date.Plain (d : Date) : Prop where
  year : 1000 ≤ d.year ∧ d.year ≤ 9999
  month : 1 ≤ d.month ∧ d.month ≤ 12
  day : 1 ≤ d.day ∧ d.day ≤ 28

theorem daysIn_ge (year : Int) (month : Nat) : 28 ≤ Server.daysIn year month := by
  unfold Server.daysIn
  split_ifs <;> decide

theorem toList_dateText {d : Date} (h : d.Plain) :
    d.text.toList = Server.Day.text ⟨d.year, d.month, d.day⟩ := by
  have hfour : padded 4 d.year = natText d.year :=
    padded_of_le (Nat.lt_of_not_le fun hle => Nat.not_lt.mpr h.year.1
      ((length_natText_le_iff (by decide)).mp hle))
  have hyear : Server.yearText d.year = natText d.year := by
    have := h.year
    rw [Server.yearText, if_pos (by omega), Int.toNat_natCast, hfour]
  simp [Date.text, Server.Day.text, hyear, toList_natString, paddedString]

theorem admits_date {d : Date} (h : d.Plain) : ColumnType.date.Admits (Cell.date d).literal := by
  obtain ⟨hyear, hmonth, hday⟩ := h
  have hlast := daysIn_ge d.year d.month
  have hfirstYear : (1000 : Int) ≤ d.year := by omega
  have hlastYear : (d.year : Int) ≤ 9999 := by omega
  refine ⟨⟨d.year, d.month, d.day⟩, ?_, hfirstYear, hlastYear, ?_⟩
  · simp only [Server.Day.isValid, Bool.and_eq_true, decide_eq_true_eq]
    omega
  · rw [Cell.literal, toList_dateText ⟨hyear, hmonth, hday⟩]

/-! ## What is drawn -/

section Drawn

variable {σ : Type} [Source σ]

/-- A drawn text is one of the choices. -/
theorem drawFrom_mem {choices : Array String} (h : 0 < choices.size) (s : σ) :
    (drawFrom choices s).1 ∈ choices.toList := by
  have hplace := (drawRange_mem .word (Nat.zero_le (choices.size - 1)) s).2
  have hlt : (drawRange .word 0 (choices.size - 1) s).1 < choices.size := by omega
  rw [drawFrom, Array.getElem?_eq_getElem hlt]
  exact Array.mem_toList_iff.mpr (Array.getElem_mem hlt)

theorem drawDate_plain {first last : Nat} (hfirst : 1000 ≤ first) (hle : first ≤ last)
    (hlast : last ≤ 9999) (s : σ) : (drawDate first last s).1.Plain := by
  have hyear := drawRange_mem .word hle s
  exact ⟨⟨hfirst.trans hyear.1, hyear.2.trans hlast⟩, drawRange_mem .word (by decide) _,
    drawRange_mem .word (by decide) _⟩

/-- What is drawn for a customer. -/
structure Customer.Typical (c : Customer) : Prop where
  first : c.first ∈ firstNames.toList
  last : c.last ∈ lastNames.toList
  phone : c.phone.1 ≤ 999 ∧ c.phone.2.1 ≤ 999 ∧ c.phone.2.2 ≤ 9999
  city : c.city ∈ cities.toList
  country : c.country ∈ countries.toList
  registered : c.registered.Plain
  status : c.status ∈ customerStatuses.toList

theorem Customer.typical_draw (id : Nat) (s : σ) : (Customer.draw id s).1.Typical := by
  -- the draws are opened first: matched against a late part, they would be unfolded one by one
  unfold Customer.draw
  constructor <;> dsimp only
  · exact drawFrom_mem (by decide) _
  · exact drawFrom_mem (by decide) _
  · exact ⟨(drawRange_mem .word (by decide) _).2, (drawRange_mem .word (by decide) _).2,
      (drawRange_mem .word (by decide) _).2⟩
  · exact drawFrom_mem (by decide) _
  · exact drawFrom_mem (by decide) _
  · exact drawDate_plain (by decide) (by decide) (by decide) _
  · exact drawFrom_mem (by decide) _

/-- What is drawn for a product. -/
structure Product.Typical (p : Product) : Prop where
  category : p.category ∈ categories.toList
  brand : p.brand ∈ brands.toList
  price : p.priceCents ≤ 100000
  stock : p.stock ≤ 10000

theorem Product.typical_draw (id : Nat) (s : σ) : (Product.draw id s).1.Typical where
  category := drawFrom_mem (by decide) _
  brand := drawFrom_mem (by decide) _
  price := (drawRange_mem .double (by decide) _).2
  stock := (drawRange_mem .word (by decide) _).2

/-- What is drawn for an order when there are so many customers. -/
structure Order.Typical (customers : Nat) (o : Order) : Prop where
  customerId : o.customerId ≤ customers
  total : o.totalCents ≤ 500000
  date : o.date.Plain
  status : o.status ∈ orderStatuses.toList
  payment : o.payment ∈ paymentMethods.toList

theorem Order.typical_draw {customers : Nat} (h : 1 ≤ customers) (id : Nat) (s : σ) :
    (Order.draw customers id s).1.Typical customers where
  customerId := (Order.customerId_draw h id s).2
  total := (drawRange_mem .double (by decide) _).2
  date := drawDate_plain (by decide) (by decide) (by decide) _
  status := drawFrom_mem (by decide) _
  payment := drawFrom_mem (by decide) _

/-- What is drawn for an order item when there are so many products. -/
structure OrderItem.Typical (products : Nat) (i : OrderItem) : Prop where
  productId : i.productId ≤ products
  quantity : i.quantity ≤ 5
  unit : i.unitCents ≤ 50000
  discount : i.discountPercent ≤ 20

theorem OrderItem.typical_draw {products : Nat} (h : 1 ≤ products) (order id : Nat) (s : σ) :
    (OrderItem.draw products order id s).1.Typical products where
  productId := (OrderItem.productId_draw h order id s).2
  quantity := (drawRange_mem .double (by decide) _).2
  unit := (drawRange_mem .double (by decide) _).2
  discount := (drawRange_mem .double (by decide) _).2

end Drawn

/-! ## Rows in tables -/

theorem toList_paddedString (width n : Nat) : (paddedString width n).toList = padded width n :=
  String.toList_ofList

namespace Customer

variable {c : Customer}

theorem length_email (h : c.Typical) (hid : c.id ≤ maxCustomers) :
    c.email.toList.length ≤ 120 := by
  have hnames : (∀ w ∈ firstNames.toList, w.toList.length ≤ 20) ∧
      ∀ w ∈ lastNames.toList, w.toList.length ≤ 20 := by decide
  have hfirst := hnames.1 _ h.first
  have hlast := hnames.2 _ h.last
  have hnumber : (natText c.id).length ≤ 7 :=
    (length_natText_le_iff (by decide)).mpr (Nat.lt_of_le_of_lt hid (by decide))
  simp [email, lowerName, toList_natString]
  omega

theorem length_phoneText (h : c.Typical) : c.phoneText.toList.length ≤ 20 := by
  obtain ⟨harea, hexchange, hline⟩ := h.phone
  have harea : (padded 3 c.phone.1).length = 3 :=
    length_padded (by decide) (Nat.lt_of_le_of_lt harea (by decide))
  have hexchange : (padded 3 c.phone.2.1).length = 3 :=
    length_padded (by decide) (Nat.lt_of_le_of_lt hexchange (by decide))
  have hline : (padded 4 c.phone.2.2).length = 4 :=
    length_padded (by decide) (Nat.lt_of_le_of_lt hline (by decide))
  simp [phoneText, toList_paddedString]
  omega

/-- The table of the customers takes the row of a customer that is drawn. -/
theorem Typical.takes (h : c.Typical) (hid : c.id ≤ maxCustomers) :
    Table.customers.Takes (rowSql c.row) (c.row.map Cell.literal) := by
  have hid' : c.id < twoTo 63 := Nat.lt_of_le_of_lt hid (by decide)
  refine ⟨readTuple_rowSql (List.cons_ne_nil _ _), ?_⟩
  exact .cons (admits_int (.inl ⟨rfl, hid'⟩)) <|
    .cons (admits_choice (by decide) h.first) <|
    .cons (admits_choice (by decide) h.last) <|
    .cons (admits_text (length_email h hid)) <|
    .cons (admits_text (length_phoneText h)) <|
    .cons (admits_choice (by decide) h.city) <|
    .cons (admits_choice (by decide) h.country) <|
    .cons (admits_date h.registered) <|
    .cons (admits_choice (by decide) h.status) .nil

end Customer

namespace Product

variable {p : Product}

theorem length_name (h : p.Typical) (hid : p.id ≤ maxProducts) : p.name.toList.length ≤ 200 := by
  have hwords : (∀ w ∈ brands.toList, w.toList.length ≤ 20) ∧
      ∀ w ∈ categories.toList, w.toList.length ≤ 20 := by decide
  have hbrand := hwords.1 _ h.brand
  have hcategory := hwords.2 _ h.category
  have hnumber : (natText p.id).length ≤ 6 :=
    (length_natText_le_iff (by decide)).mpr (Nat.lt_of_le_of_lt hid (by decide))
  simp [name, toList_natString]
  omega

theorem length_sku (hid : p.id ≤ maxProducts) : p.sku.toList.length ≤ 20 := by
  have hnumber : (padded 8 p.id).length = 8 :=
    length_padded (by decide) (Nat.lt_of_le_of_lt hid (by decide))
  simp [sku, toList_paddedString]
  omega

theorem costCents_le (p : Product) : p.costCents ≤ p.priceCents := by
  unfold costCents
  omega

/-- The table of the products takes the row of a product that is drawn. -/
theorem Typical.takes (h : p.Typical) (hid : p.id ≤ maxProducts) :
    Table.products.Takes (rowSql p.row) (p.row.map Cell.literal) := by
  have hid' : p.id < twoTo 63 := Nat.lt_of_le_of_lt hid (by decide)
  have hprice : p.priceCents < tenTo 10 := Nat.lt_of_le_of_lt h.price (by decide)
  have hcost : p.costCents < tenTo 10 := Nat.lt_of_le_of_lt p.costCents_le hprice
  have hstock : p.stock < twoTo 31 := Nat.lt_of_le_of_lt h.stock (by decide)
  have hactive : (if p.active then 1 else 0) < twoTo 15 := by
    cases p.active <;> decide
  refine ⟨readTuple_rowSql (List.cons_ne_nil _ _), ?_⟩
  exact .cons (admits_int (.inl ⟨rfl, hid'⟩)) <|
    .cons (admits_text (length_name h hid)) <|
    .cons (admits_choice (by decide) h.category) <|
    .cons (admits_choice (by decide) h.brand) <|
    .cons (admits_amount (by decide) hprice) <|
    .cons (admits_amount (by decide) hcost) <|
    .cons (admits_int (.inr (.inl ⟨rfl, hstock⟩))) <|
    .cons (admits_text (length_sku hid)) <|
    .cons (admits_int (.inr (.inr ⟨rfl, hactive⟩))) .nil

theorem Typical.cost64? (h : p.Typical) : cost64? p.priceCents = some p.costCents := by
  have hfits : p.priceCents * 6 < twoTo 64 :=
    Nat.lt_of_le_of_lt (Nat.mul_le_mul_right 6 h.price) (by decide)
  rw [Sample.cost64?, mul64?, if_pos hfits]
  rfl

/-- The amounts in a product's row. -/
theorem cents?_row (p : Product) :
    Table.products.cents? (p.row.map Cell.literal) "price" = some p.priceCents ∧
      Table.products.cents? (p.row.map Cell.literal) "cost" = some p.costCents :=
  ⟨Table.cents?_of_literal rfl, Table.cents?_of_literal rfl⟩

end Product

/-- The table of the orders takes the row of an order that is drawn. -/
theorem Order.Typical.takes {o : Order} {customers : Nat} (h : o.Typical customers)
    (hcustomers : customers ≤ maxCustomers) (hid : o.id ≤ maxOrders) :
    Table.orders.Takes (rowSql o.row) (o.row.map Cell.literal) := by
  have hid' : o.id < twoTo 63 := Nat.lt_of_le_of_lt hid (by decide)
  have hcustomer : o.customerId < twoTo 63 :=
    Nat.lt_of_le_of_lt (h.customerId.trans hcustomers) (by decide)
  have htotal : o.totalCents < tenTo 12 := Nat.lt_of_le_of_lt h.total (by decide)
  refine ⟨readTuple_rowSql (List.cons_ne_nil _ _), ?_⟩
  exact .cons (admits_int (.inl ⟨rfl, hid'⟩)) <|
    .cons (admits_int (.inl ⟨rfl, hcustomer⟩)) <|
    .cons (admits_date h.date) <|
    .cons (admits_choice (by decide) h.status) <|
    .cons (admits_amount (by decide) htotal) <|
    .cons (admits_choice (by decide) h.payment) .nil

namespace OrderItem

variable {i : OrderItem} {products : Nat}

theorem subtotalCents_le (i : OrderItem) : i.subtotalCents ≤ i.quantity * i.unitCents := by
  have hkept : 100 - i.discountPercent ≤ 100 := Nat.sub_le _ _
  have hfull := Nat.mul_le_mul_left (i.unitCents * i.quantity) hkept
  rw [Nat.mul_comm i.quantity, subtotalCents]
  exact Nat.div_le_of_le_mul (by rwa [Nat.mul_comm 100])

/-- The most that an order item costs. -/
theorem Typical.full (h : i.Typical products) : i.unitCents * i.quantity ≤ 250000 :=
  Nat.mul_le_mul h.unit h.quantity

/-- The table of the order items takes the row of an order item that is drawn. -/
theorem Typical.takes (h : i.Typical products) (hproducts : products ≤ maxProducts)
    (horder : i.orderId ≤ maxOrders) (hid : i.id ≤ maxOrders * (2 * maxItemsPerOrder)) :
    Table.orderItems.Takes (rowSql i.row) (i.row.map Cell.literal) := by
  have hid' : i.id < twoTo 63 := Nat.lt_of_le_of_lt hid (by decide)
  have horder' : i.orderId < twoTo 63 := Nat.lt_of_le_of_lt horder (by decide)
  have hproduct : i.productId < twoTo 63 :=
    Nat.lt_of_le_of_lt (h.productId.trans hproducts) (by decide)
  have hquantity : i.quantity < twoTo 31 := Nat.lt_of_le_of_lt h.quantity (by decide)
  have hdiscount : i.discountPercent < twoTo 31 := Nat.lt_of_le_of_lt h.discount (by decide)
  have hunit : i.unitCents < tenTo 10 := Nat.lt_of_le_of_lt h.unit (by decide)
  have hmost := i.subtotalCents_le.trans (Nat.mul_comm i.quantity i.unitCents ▸ h.full)
  have hsubtotal : i.subtotalCents < tenTo 12 := Nat.lt_of_le_of_lt hmost (by decide)
  refine ⟨readTuple_rowSql (List.cons_ne_nil _ _), ?_⟩
  exact .cons (admits_int (.inl ⟨rfl, hid'⟩)) <|
    .cons (admits_int (.inl ⟨rfl, horder'⟩)) <|
    .cons (admits_int (.inl ⟨rfl, hproduct⟩)) <|
    .cons (admits_int (.inr (.inl ⟨rfl, hquantity⟩))) <|
    .cons (admits_amount (by decide) hunit) <|
    .cons (admits_int (.inr (.inl ⟨rfl, hdiscount⟩))) <|
    .cons (admits_amount (by decide) hsubtotal) .nil

theorem Typical.subtotal64? (h : i.Typical products) :
    subtotal64? i.unitCents i.quantity i.discountPercent = some i.subtotalCents := by
  have hfull : i.unitCents * i.quantity < twoTo 64 := Nat.lt_of_le_of_lt h.full (by decide)
  have hdiscount : i.discountPercent ≤ 100 := h.discount.trans (by decide)
  have hkept : i.unitCents * i.quantity * (100 - i.discountPercent) < twoTo 64 :=
    Nat.lt_of_le_of_lt (Nat.mul_le_mul h.full (Nat.sub_le _ _)) (by decide)
  simp only [Sample.subtotal64?, mul64?, sub64?, if_pos hfull, if_pos hdiscount, if_pos hkept,
    Option.bind_eq_bind, Option.bind_some]
  rfl

/-- The amounts and numbers in an order item's row. -/
theorem read_row (i : OrderItem) :
    Table.orderItems.cents? (i.row.map Cell.literal) "unit_price" = some i.unitCents ∧
      Table.orderItems.whole? (i.row.map Cell.literal) "quantity" = some i.quantity ∧
      Table.orderItems.whole? (i.row.map Cell.literal) "discount_percent" =
        some i.discountPercent ∧
      Table.orderItems.cents? (i.row.map Cell.literal) "subtotal" = some i.subtotalCents :=
  ⟨Table.cents?_of_literal rfl, Table.whole?_of_literal rfl, Table.whole?_of_literal rfl,
    Table.cents?_of_literal rfl⟩

end OrderItem

/-! ## All rows -/

/-- The most items that a request leads to. -/
theorem Request.Valid.items_le {r : Request} (hr : r.Valid) :
    r.orders * (2 * r.itemsPerOrder) ≤ maxOrders * (2 * maxItemsPerOrder) :=
  Nat.mul_le_mul hr.orders (Nat.mul_le_mul_left 2 hr.itemsPerOrder.2)

/-- **Every row of a generation fits its table.** -/
theorem drawData_takes {σ : Type} [Source σ] {r : Request} (hr : r.Valid) (s : σ) (t : Table) :
    ∀ row ∈ (drawData r s).rows t, t.Takes (rowSql row) (row.map Cell.literal) := by
  have hmeets := drawData_meets hr s
  have hbelow {ids : List Nat} {count n : Nat} (h : ids = idsFrom 1 count) (hn : n ∈ ids) :
      n ≤ count := by
    have := mem_idsFrom.mp (h ▸ hn)
    omega
  cases t with
  | customers =>
    intro row hrow
    obtain ⟨c, hc, rfl⟩ := List.mem_map.mp hrow
    have hdrawn := forall_mem_drawAll Customer.Typical Customer.typical_draw _ _ c hc
    have hid := hbelow hmeets.customers (List.mem_map_of_mem hc)
    exact hdrawn.takes (hid.trans hr.customers.2)
  | products =>
    intro row hrow
    obtain ⟨p, hp, rfl⟩ := List.mem_map.mp hrow
    have hdrawn := forall_mem_drawAll Product.Typical Product.typical_draw _ _ p hp
    have hid := hbelow hmeets.products (List.mem_map_of_mem hp)
    exact hdrawn.takes (hid.trans hr.products.2)
  | orders =>
    intro row hrow
    obtain ⟨o, ho, rfl⟩ := List.mem_map.mp hrow
    have hdrawn := forall_mem_drawAll (Order.Typical r.customers)
      (Order.typical_draw hr.customers.1) _ _ o ho
    have hid := hbelow hmeets.orders (List.mem_map_of_mem ho)
    exact hdrawn.takes hr.customers.2 (hid.trans hr.orders)
  | orderItems =>
    intro row hrow
    obtain ⟨i, hi, rfl⟩ := List.mem_map.mp hrow
    obtain ⟨_, -, hdrawn⟩ := forall_mem_drawItems (fun _ => OrderItem.Typical r.products)
      (OrderItem.typical_draw hr.products.1) _ _ _ i hi
    have horder := hbelow hmeets.orders (hmeets.orderOf i hi)
    have hid := (hbelow hmeets.items (List.mem_map_of_mem hi)).trans hmeets.itemCount
    exact hdrawn.takes hr.products.2 (horder.trans hr.orders) (hid.trans hr.items_le)

/-- **Every row that is drawn fits its table**, read back from its text. For every source of random
words, and every number of a row and of its order that the request leads to:

* the text of the row has one value for each column of its table, in the declared order, and each
  column takes its value;
* the cost of a product is six tenths of its price, rounded down, and not above it;
* the subtotal of an order item is its full price less the discount, rounded down, and not above
  the full price;
* no multiplication and no subtraction on the way leaves the range of 64 bits. -/
theorem tuples_fit {σ : Type} [Source σ] {r : Request} (hr : r.Valid) (s : σ) :
    (∀ id ≤ r.customers, ∃ literals,
      Table.customers.Takes (rowSql (Customer.draw id s).1.row) literals) ∧
    (∀ id ≤ r.products, ∃ literals,
      Table.products.Takes (rowSql (Product.draw id s).1.row) literals ∧
      ∃ price, Table.products.cents? literals "price" = some price ∧
        Table.products.cents? literals "cost" = some (price * 6 / 10) ∧
        price * 6 / 10 ≤ price ∧ cost64? price = some (price * 6 / 10)) ∧
    (∀ id ≤ r.orders, ∃ literals,
      Table.orders.Takes (rowSql (Order.draw r.customers id s).1.row) literals) ∧
    (∀ order ≤ r.orders, ∀ id ≤ r.orders * (2 * r.itemsPerOrder), ∃ literals,
      Table.orderItems.Takes (rowSql (OrderItem.draw r.products order id s).1.row) literals ∧
      ∃ unit quantity discount,
        Table.orderItems.cents? literals "unit_price" = some unit ∧
        Table.orderItems.whole? literals "quantity" = some quantity ∧
        Table.orderItems.whole? literals "discount_percent" = some discount ∧
        Table.orderItems.cents? literals "subtotal" =
          some (quantity * unit * (100 - discount) / 100) ∧
        quantity * unit * (100 - discount) / 100 ≤ quantity * unit ∧
        subtotal64? unit quantity discount = some (quantity * unit * (100 - discount) / 100)) ∧
    mul64? r.itemsPerOrder 2 = some (r.itemsPerOrder * 2) := by
  have htwice : r.itemsPerOrder * 2 < twoTo 64 :=
    Nat.lt_of_le_of_lt (Nat.mul_le_mul_right 2 hr.itemsPerOrder.2) (by decide)
  refine ⟨fun id hid => ?_, fun id hid => ?_, fun id hid => ?_, fun order horder id hid => ?_,
    if_pos htwice⟩
  · have hdrawn := Customer.typical_draw id s
    exact ⟨_, hdrawn.takes (hid.trans hr.customers.2)⟩
  · have hdrawn := Product.typical_draw id s
    obtain ⟨hprice, hcost⟩ := Product.cents?_row (Product.draw id s).1
    exact ⟨_, hdrawn.takes (hid.trans hr.products.2), _, hprice, hcost, Product.costCents_le _,
      hdrawn.cost64?⟩
  · have hdrawn := Order.typical_draw hr.customers.1 id s
    exact ⟨_, hdrawn.takes hr.customers.2 (hid.trans hr.orders)⟩
  · have hdrawn := OrderItem.typical_draw hr.products.1 order id s
    have htakes := hdrawn.takes hr.products.2 (horder.trans hr.orders) (hid.trans hr.items_le)
    obtain ⟨hunit, hquantity, hdiscount, hsubtotal⟩ :=
      OrderItem.read_row (OrderItem.draw r.products order id s).1
    have hle := OrderItem.subtotalCents_le (OrderItem.draw r.products order id s).1
    have h64 := hdrawn.subtotal64?
    rw [OrderItem.subtotalCents, Nat.mul_comm (OrderItem.unitCents _)] at hsubtotal hle h64
    exact ⟨_, htakes, _, _, _, hunit, hquantity, hdiscount, hsubtotal, hle, h64⟩

/-- A source that gives the words of a list, and zeros behind them. -/
structure Script where
  words : List UInt32

instance : Source Script where
  next s := (s.words.headD 0, ⟨s.words.tail⟩)

def scriptedProduct : Product :=
  (Product.draw 7 (Script.mk [1000000000, 500000000, 0, 1000043000])).1

/-- The text of its row. -/
def scriptedTuple : String :=
  "(7, 'FashionBrand Home & Garden Product 7', 'Home & Garden', 'FashionBrand', " ++
    "233.61, 140.16, 0, 'SKU-00000007', 1)"

/-- The cost of the scripted product is rounded down. -/
theorem tuples_fit_rounded :
    Request.Valid {} ∧ rowSql scriptedProduct.row = scriptedTuple ∧
      ∃ literals, Table.products.Takes scriptedTuple literals ∧
        ∃ price, Table.products.cents? literals "price" = some price ∧
          Table.products.cents? literals "cost" = some (price * 6 / 10) := by
  have hvalid : Request.Valid {} := ⟨by decide, by decide, by decide, by decide⟩
  have htuple : rowSql scriptedProduct.row = scriptedTuple := by decide +kernel
  obtain ⟨-, hproducts, -⟩ :=
    tuples_fit hvalid (Script.mk [1000000000, 500000000, 0, 1000043000])
  obtain ⟨literals, htakes, price, hprice, hcost, -⟩ := hproducts 7 (by decide)
  exact ⟨hvalid, htuple, literals, htuple ▸ htakes, price, hprice, hcost⟩

end QueryGate.Sample
