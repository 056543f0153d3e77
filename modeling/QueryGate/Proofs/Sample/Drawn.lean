import Mathlib.Data.List.Basic
import QueryGate.Sample.Generation

/-!
# What a generation draws

A generation sends its rows batch by batch. Here the batches are left aside: the rows of all tables
are drawn one after another, and every number that was drawn lies in its range, whatever the source
of random words gives.

* `Data`: the rows of all tables.
* `drawItems`, `drawData`: the draws without the batches.
* `Data.Meets data r`: the data is what the request asked for, and refers to itself only.

Headline: `drawData_meets`.
-/

namespace QueryGate.Sample

open QueryGate.Random

section Draws

variable {σ α β : Type}

/-! ## Lists of draws -/

/-- Numbers that follow one another are drawn for in two goes. -/
theorem drawAll_append (draw : Nat → Draw σ α) (ids ids' : List Nat) (s : σ) :
    drawAll draw (ids ++ ids') s =
      ((drawAll draw ids s).1 ++ (drawAll draw ids' (drawAll draw ids s).2).1,
        (drawAll draw ids' (drawAll draw ids s).2).2) := by
  induction ids generalizing s with
  | nil => rfl
  | cons id ids ih => simp [drawAll, ih]

theorem idsFrom_append (first m n : Nat) :
    idsFrom first m ++ idsFrom (first + m) n = idsFrom first (m + n) := by
  simp [idsFrom]

theorem mem_idsFrom {first count n : Nat} :
    n ∈ idsFrom first count ↔ first ≤ n ∧ n < first + count := by
  simp [idsFrom, List.mem_range'_1]

theorem length_idsFrom (first count : Nat) : (idsFrom first count).length = count :=
  List.length_range'

theorem nodup_idsFrom (first count : Nat) : (idsFrom first count).Nodup := List.nodup_range'

/-- What every single draw shows, the list shows in order. -/
theorem drawAll_map {draw : Nat → Draw σ α} {f : α → β} {g : Nat → β}
    (h : ∀ id s, f (draw id s).1 = g id) (ids : List Nat) (s : σ) :
    (drawAll draw ids s).1.map f = ids.map g := by
  induction ids generalizing s with
  | nil => rfl
  | cons id ids ih => simp [drawAll, h, ih]

/-- What is said of every single draw is said of the list. -/
theorem forall_mem_drawAll {draw : Nat → Draw σ α} (P : α → Prop) (h : ∀ id s, P (draw id s).1)
    (ids : List Nat) (s : σ) : ∀ a ∈ (drawAll draw ids s).1, P a := by
  induction ids generalizing s with
  | nil => simp [drawAll]
  | cons id ids ih =>
    simp only [drawAll, List.mem_cons, forall_eq_or_imp]
    exact ⟨h id s, ih _⟩

theorem length_drawAll (draw : Nat → Draw σ α) (ids : List Nat) (s : σ) :
    (drawAll draw ids s).1.length = ids.length := by
  simpa using congrArg List.length (drawAll_map (f := fun _ => ()) (g := fun _ => ())
    (fun _ _ => rfl) ids s)

/-- Rows are drawn as what they are rows of. -/
theorem drawAll_drawRow (row : α → Row) (draw : Nat → Draw σ α) (ids : List Nat) (s : σ) :
    drawAll (drawRow row draw) ids s =
      ((drawAll draw ids s).1.map row, (drawAll draw ids s).2) := by
  induction ids generalizing s with
  | nil => rfl
  | cons id ids ih => simp [drawAll, drawRow, ih]

end Draws

variable {σ : Type} [Source σ]

/-! ## Single draws -/

theorem Customer.id_draw (id : Nat) (s : σ) : (Customer.draw id s).1.id = id := rfl

theorem Product.id_draw (id : Nat) (s : σ) : (Product.draw id s).1.id = id := rfl

theorem Order.id_draw (customers id : Nat) (s : σ) : (Order.draw customers id s).1.id = id := rfl

theorem Order.customerId_draw {customers : Nat} (h : 1 ≤ customers) (id : Nat) (s : σ) :
    1 ≤ (Order.draw customers id s).1.customerId ∧
      (Order.draw customers id s).1.customerId ≤ customers :=
  drawRange_mem .double h s

theorem OrderItem.id_draw (products order id : Nat) (s : σ) :
    (OrderItem.draw products order id s).1.id = id := rfl

theorem OrderItem.orderId_draw (products order id : Nat) (s : σ) :
    (OrderItem.draw products order id s).1.orderId = order := rfl

theorem OrderItem.productId_draw {products : Nat} (h : 1 ≤ products) (order id : Nat) (s : σ) :
    1 ≤ (OrderItem.draw products order id s).1.productId ∧
      (OrderItem.draw products order id s).1.productId ≤ products :=
  drawRange_mem .double h s

theorem drawItemCount_mem {itemsPerOrder : Nat} (h : 1 ≤ itemsPerOrder) (s : σ) :
    1 ≤ (drawItemCount itemsPerOrder s).1 ∧
      (drawItemCount itemsPerOrder s).1 ≤ 2 * itemsPerOrder := by
  have hle : 1 ≤ itemsPerOrder * 2 := by omega
  rw [Nat.mul_comm 2]
  exact drawRange_mem .double hle s

/-! ## Order items -/

section Items

variable {σ : Type} {count : Draw σ Nat} {item : (order id : Nat) → Draw σ OrderItem}

/-- Draws the items of the orders. They are numbered from `first` on, across all orders. -/
def drawItems (count : Draw σ Nat) (item : (order id : Nat) → Draw σ OrderItem) :
    List Nat → (first : Nat) → Draw σ (List OrderItem)
  | [], _, s => ([], s)
  | order :: orders, first, s =>
    let n := count s
    let items := drawAll (item order) (idsFrom first n.1) n.2
    let others := drawItems count item orders (first + n.1) items.2
    (items.1 ++ others.1, others.2)

theorem drawItems_ids (hids : ∀ order id s, (item order id s).1.id = id) (orders : List Nat)
    (first : Nat) (s : σ) :
    (drawItems count item orders first s).1.map (·.id) =
      idsFrom first (drawItems count item orders first s).1.length := by
  induction orders generalizing first s with
  | nil => rfl
  | cons order orders ih =>
    simp only [drawItems, List.map_append, List.length_append]
    rw [ih, drawAll_map (g := id) (hids order), List.map_id, length_drawAll, length_idsFrom,
      idsFrom_append]

theorem length_drawItems_le {most : Nat} (hcount : ∀ s, (count s).1 ≤ most) (orders : List Nat)
    (first : Nat) (s : σ) :
    (drawItems count item orders first s).1.length ≤ orders.length * most := by
  induction orders generalizing first s with
  | nil => simp [drawItems]
  | cons order orders ih =>
    simp only [drawItems, List.length_append, length_drawAll, length_idsFrom, List.length_cons,
      Nat.succ_mul]
    have hfirst := hcount s
    have hothers := ih (first + (count s).1)
      (drawAll (item order) (idsFrom first (count s).1) (count s).2).2
    omega

/-- What is said of every item of an order is said of every item, with its order. -/
theorem forall_mem_drawItems (P : Nat → OrderItem → Prop)
    (h : ∀ order id s, P order (item order id s).1) (orders : List Nat) (first : Nat) (s : σ) :
    ∀ i ∈ (drawItems count item orders first s).1, ∃ order ∈ orders, P order i := by
  induction orders generalizing first s with
  | nil => simp [drawItems]
  | cons order orders ih =>
    simp only [drawItems, List.mem_append]
    rintro i (hi | hi)
    · exact ⟨order, List.mem_cons_self, forall_mem_drawAll (P order) (h order) _ _ i hi⟩
    · obtain ⟨other, hother, hP⟩ := ih _ _ i hi
      exact ⟨other, List.mem_cons_of_mem order hother, hP⟩

/-- The items drawn for one order count for no other. -/
theorem drawAll_countP (horder : ∀ order id s, (item order id s).1.orderId = order) (order : Nat)
    (ids : List Nat) (s : σ) (other : Nat) :
    (drawAll (item order) ids s).1.countP (·.orderId = other) =
      if order = other then ids.length else 0 := by
  have hown := forall_mem_drawAll (fun i => OrderItem.orderId i = order)
    (horder order) ids s
  split
  next heq =>
    rw [← length_drawAll (item order) ids s, List.countP_eq_length]
    exact fun i hi => decide_eq_true ((hown i hi).trans heq)
  next hne =>
    rw [List.countP_eq_zero]
    exact fun i hi => by simpa [hown i hi] using hne

/-- **How many items an order has**: as many as were drawn for it. -/
theorem drawItems_countP (horder : ∀ order id s, (item order id s).1.orderId = order)
    {orders : List Nat} (hnodup : orders.Nodup) (first : Nat) (s : σ) {order : Nat}
    (hmem : order ∈ orders) :
    ∃ s', (drawItems count item orders first s).1.countP (·.orderId = order) = (count s').1 := by
  induction orders generalizing first s with
  | nil => exact absurd hmem (by simp)
  | cons other orders ih =>
    obtain ⟨hout, hnodup⟩ := List.nodup_cons.mp hnodup
    simp only [drawItems, List.countP_append, drawAll_countP horder, length_idsFrom]
    rcases List.mem_cons.mp hmem with rfl | hlater
    · -- the items behind belong to other orders
      have hnone (first : Nat) (s : σ) :
          (drawItems count item orders first s).1.countP (·.orderId = order) = 0 := by
        rw [List.countP_eq_zero]
        intro i hi
        obtain ⟨own, hown, hi⟩ := forall_mem_drawItems (fun order i => i.orderId = order) horder
          orders first s i hi
        have hne : i.orderId ≠ order := fun heq => hout (heq ▸ hi ▸ hown)
        simpa using hne
      rw [hnone, if_pos rfl]
      exact ⟨s, rfl⟩
    · have hne : other ≠ order := fun heq => hout (heq ▸ hlater)
      rw [if_neg hne, Nat.zero_add]
      exact ih hnodup _ _ hlater

end Items

/-! ## All tables -/

/-- The rows of all tables. -/
structure Data where
  customers : List Customer
  products : List Product
  orders : List Order
  items : List OrderItem

/-- The rows of a table as they are sent. -/
def Data.rows (d : Data) : Table → List Row
  | .customers => d.customers.map Customer.row
  | .products => d.products.map Product.row
  | .orders => d.orders.map Order.row
  | .orderItems => d.items.map OrderItem.row

/-- Draws the rows of all tables, one table after another. -/
def drawData (r : Request) (s : σ) : Data :=
  let customers := drawAll Customer.draw (idsFrom 1 r.customers) s
  let products := drawAll Product.draw (idsFrom 1 r.products) customers.2
  let orders := drawAll (Order.draw r.customers) (idsFrom 1 r.orders) products.2
  let items := drawItems (drawItemCount r.itemsPerOrder) (OrderItem.draw r.products)
    (idsFrom 1 r.orders) 1 orders.2
  ⟨customers.1, products.1, orders.1, items.1⟩

/-- The data is what was asked for: every table holds the keys from one on, every reference leads to
a row, and the number of an order's items is in its range. -/
structure Data.Meets (d : Data) (r : Request) : Prop where
  customers : d.customers.map (·.id) = idsFrom 1 r.customers
  products : d.products.map (·.id) = idsFrom 1 r.products
  orders : d.orders.map (·.id) = idsFrom 1 r.orders
  items : d.items.map (·.id) = idsFrom 1 d.items.length
  customerOf : ∀ o ∈ d.orders, o.customerId ∈ d.customers.map (·.id)
  orderOf : ∀ i ∈ d.items, i.orderId ∈ d.orders.map (·.id)
  productOf : ∀ i ∈ d.items, i.productId ∈ d.products.map (·.id)
  itemCount : d.items.length ≤ r.orders * (2 * r.itemsPerOrder)
  itemsOf : ∀ o ∈ d.orders, 1 ≤ d.items.countP (·.orderId = o.id) ∧
    d.items.countP (·.orderId = o.id) ≤ 2 * r.itemsPerOrder

/-- **The data that is drawn is what was asked for.** -/
theorem drawData_meets {r : Request} (hvalid : r.Valid) (s : σ) : (drawData r s).Meets r := by
  have hcustomers : (drawData r s).customers.map (·.id) = idsFrom 1 r.customers :=
    (drawAll_map (g := id) Customer.id_draw _ _).trans (List.map_id _)
  have hproducts : (drawData r s).products.map (·.id) = idsFrom 1 r.products :=
    (drawAll_map (g := id) Product.id_draw _ _).trans (List.map_id _)
  have horders : (drawData r s).orders.map (·.id) = idsFrom 1 r.orders :=
    (drawAll_map (g := id) (Order.id_draw r.customers) _ _).trans (List.map_id _)
  refine ⟨hcustomers, hproducts, horders, drawItems_ids (OrderItem.id_draw r.products) _ _ _,
    fun o ho => ?_, fun i hi => ?_, fun i hi => ?_, ?_, fun o ho => ?_⟩
  · have hrange := forall_mem_drawAll (fun o => 1 ≤ o.customerId ∧ o.customerId ≤ r.customers)
      (Order.customerId_draw hvalid.customers.1) _ _ o ho
    rw [hcustomers, mem_idsFrom]
    omega
  · obtain ⟨order, hmem, hof⟩ := forall_mem_drawItems (fun order i => i.orderId = order)
      (OrderItem.orderId_draw r.products) _ _ _ i hi
    rw [horders, hof]
    exact hmem
  · obtain ⟨_, _, hrange⟩ := forall_mem_drawItems
      (fun _ i => 1 ≤ i.productId ∧ i.productId ≤ r.products)
      (OrderItem.productId_draw hvalid.products.1) _ _ _ i hi
    rw [hproducts, mem_idsFrom]
    omega
  · rw [← length_idsFrom 1 r.orders]
    exact length_drawItems_le (fun s => (drawItemCount_mem hvalid.itemsPerOrder.1 s).2) _ _ _
  · have hmem : o.id ∈ idsFrom 1 r.orders := horders ▸ List.mem_map_of_mem ho
    obtain ⟨s', hcount⟩ : ∃ s' : σ, (drawData r s).items.countP (·.orderId = o.id) =
        (drawItemCount r.itemsPerOrder s').1 :=
      drawItems_countP (OrderItem.orderId_draw r.products) (nodup_idsFrom 1 r.orders) 1 _ hmem
    rw [hcount]
    exact drawItemCount_mem hvalid.itemsPerOrder.1 s'

end QueryGate.Sample
