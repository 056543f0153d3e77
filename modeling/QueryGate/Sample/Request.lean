import QueryGate.Failure
import QueryGate.Text.Integer

/-!
# Requests for sample data
-/

namespace QueryGate.Sample

/-- How much sample data is asked for. -/
structure Request where
  customers : Nat := 10000
  products : Nat := 1000
  orders : Nat := 50000
  /-- The average number of items of an order. -/
  itemsPerOrder : Nat := 3
  deriving DecidableEq, Repr

/-- The largest numbers that a request may name. -/
def maxCustomers : Nat := 1000000
def maxProducts : Nat := 100000
def maxOrders : Nat := 5000000
def maxItemsPerOrder : Nat := 20

/-- A number of a request that is out of its range. -/
structure RangeError where
  name : String
  min : Nat
  max : Nat
  got : Nat
  deriving DecidableEq, Repr

/-- The wording of an error. -/
def RangeError.message (e : RangeError) : String :=
  let n (k : Nat) := String.ofList (Text.natText k)
  e.name ++ " must be between " ++ n e.min ++ " and " ++ n e.max ++ ", got " ++ n e.got

/-- The error as a failure of the request. -/
def RangeError.failure (e : RangeError) : Failure := ⟨.invalidRequest, e.message⟩

/-- A number within its range. -/
def checkRange (name : String) (min max got : Nat) : Except RangeError Unit :=
  if min ≤ got ∧ got ≤ max then .ok () else .error ⟨name, min, max, got⟩

namespace Request

/-- The numbers are within what a generation may create. -/
structure Valid (r : Request) : Prop where
  customers : 1 ≤ r.customers ∧ r.customers ≤ maxCustomers
  products : 1 ≤ r.products ∧ r.products ≤ maxProducts
  orders : r.orders ≤ maxOrders
  itemsPerOrder : 1 ≤ r.itemsPerOrder ∧ r.itemsPerOrder ≤ maxItemsPerOrder

/-- The first number that is out of its range, as an error. -/
def check (r : Request) : Except RangeError Unit := do
  checkRange "customers" 1 maxCustomers r.customers
  checkRange "products" 1 maxProducts r.products
  checkRange "orders" 0 maxOrders r.orders
  checkRange "items_per_order" 1 maxItemsPerOrder r.itemsPerOrder

theorem checkRange_eq_ok_iff {name : String} {min max got : Nat} :
    checkRange name min max got = .ok () ↔ min ≤ got ∧ got ≤ max := by
  unfold checkRange
  split <;> simp_all

/-- A request passes exactly when its numbers are within their ranges. -/
theorem check_eq_ok_iff (r : Request) : r.check = .ok () ↔ r.Valid := by
  have step : ∀ {a : Except RangeError Unit} {f : Unit → Except RangeError Unit},
      (a >>= f) = .ok () ↔ a = .ok () ∧ f () = .ok () := by
    intro a f
    cases a <;> simp [bind, Except.bind]
  simp only [check, step, checkRange_eq_ok_iff]
  constructor
  · rintro ⟨h1, h2, h3, h4⟩
    exact ⟨h1, h2, h3.2, h4⟩
  · rintro ⟨h1, h2, h3, h4⟩
    exact ⟨h1, h2, ⟨Nat.zero_le _, h3⟩, h4⟩

end Request

end QueryGate.Sample
