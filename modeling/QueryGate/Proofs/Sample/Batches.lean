import QueryGate.Proofs.Sample.Drawn

/-!
# Rows in batches

A table is filled batch by batch: the rows of a batch are sent in one statement and then the
progress is shown. Customers, products and orders are cut into batches before they are drawn; order
items are drawn order by order and wait until there are enough of them. Either way the batches put
together are the rows that `drawData` gives, no batch is empty, and the progress only rises.

* `Fills t most low steps rows high`: the steps put the rows into the table in batches.
* `fillSteps_fills`, `itemDraft_fills`: the two ways of cutting rows into batches.
* `Stages r data steps`: a whole generation, stage by stage.

Headline: `generation_stages`.
-/

namespace QueryGate.Sample

open QueryGate.Random

/-! ## Batches -/

/-- The steps put rows into a table in batches of `most` rows at most, none of them empty. The
progress rises from `low` to `high`. -/
inductive Fills (t : Table) (most : Nat) : Nat → List Step → List Row → Nat → Prop
  | nothing (progress : Nat) : Fills t most progress [] [] progress
  | batch {low progress high : Nat} {rows others : List Row} {steps : List Step} (task : String)
      (nonempty : rows ≠ []) (size : rows.length ≤ most) (rises : low ≤ progress)
      (rest : Fills t most progress steps others high) :
      Fills t most low (.send (.insert t rows) :: .report progress task :: steps) (rows ++ others)
        high

/-! ## Progress within a span -/

namespace Span

variable {span : Span}

theorem at_le_stop (hspan : span.start ≤ span.stop) {done total : Nat} (h : done ≤ total) :
    span.at done total ≤ span.stop := by
  unfold Span.at
  split
  · exact Nat.le_refl _
  next hpositive =>
    have hpart : (span.stop - span.start) * done / total ≤ span.stop - span.start :=
      Nat.div_le_of_le_mul (by rw [Nat.mul_comm total]; exact Nat.mul_le_mul_left _ h)
    omega

theorem at_mono {done later : Nat} (h : done ≤ later) (total : Nat) :
    span.at done total ≤ span.at later total := by
  unfold Span.at
  split
  · exact Nat.le_refl _
  · exact Nat.add_le_add_left (Nat.div_le_div_right (Nat.mul_le_mul_left _ h)) _

theorem start_le_at (hspan : span.start ≤ span.stop) (done total : Nat) :
    span.start ≤ span.at done total := by
  unfold Span.at
  split
  · exact hspan
  · exact Nat.le_add_right _ _

end Span

variable {σ : Type}

/-! ## Rows that are cut before they are drawn -/

/-- The steps put the rows that are not yet there into the table, as they are drawn in one go. -/
theorem fillSteps_fills (t : Table) {span : Span} (hspan : span.start ≤ span.stop) (total : Nat)
    (draw : Nat → Draw σ Row) (batches : Nat) {low done : Nat} (s : σ) (hdone : done ≤ total)
    (hbatches : total - done ≤ batches * batchSize) (hlow : low ≤ span.at done total) :
    (∃ high ≤ span.stop, Fills t batchSize low (fillSteps t span total draw batches done s).1
      (drawAll draw (idsFrom (done + 1) (total - done)) s).1 high) ∧
    (fillSteps t span total draw batches done s).2 =
      (drawAll draw (idsFrom (done + 1) (total - done)) s).2 := by
  have hstop : low ≤ span.stop := Nat.le_trans hlow (Span.at_le_stop hspan hdone)
  induction batches generalizing low done s with
  | zero =>
    have hnone : total - done = 0 := by omega
    rw [hnone]
    exact ⟨⟨low, hstop, .nothing low⟩, rfl⟩
  | succ batches ih =>
    rw [fillSteps]
    split
    next hcount =>
      have hnone : total - done = 0 := by
        have hsize : 0 < batchSize := by decide
        omega
      rw [hnone]
      exact ⟨⟨low, hstop, .nothing low⟩, rfl⟩
    next hcount =>
      have hle : min batchSize (total - done) ≤ total - done := Nat.min_le_right _ _
      have hsize : min batchSize (total - done) ≤ batchSize := Nat.min_le_left _ _
      have hrest : total - (done + min batchSize (total - done)) ≤ batches * batchSize := by
        rw [Nat.succ_mul] at hbatches
        omega
      generalize min batchSize (total - done) = count at hcount hle hsize hrest ⊢
      have hids : idsFrom (done + 1) (total - done) =
          idsFrom (done + 1) count ++ idsFrom (done + count + 1) (total - (done + count)) := by
        rw [Nat.add_right_comm, idsFrom_append]
        congr 1
        omega
      have hlength := length_drawAll draw (idsFrom (done + 1) count) s
      rw [length_idsFrom] at hlength
      have hdone' : done + count ≤ total := by omega
      obtain ⟨⟨high, hhigh, hfills⟩, hsource⟩ := ih (drawAll draw (idsFrom (done + 1) count) s).2
        hdone' hrest (Nat.le_refl _) (Span.at_le_stop hspan hdone')
      rw [hids, drawAll_append]
      refine ⟨⟨high, hhigh, .batch _ ?_ ?_ ?_ hfills⟩, hsource⟩
      · exact List.ne_nil_of_length_pos (by omega)
      · omega
      · exact Nat.le_trans hlow (Span.at_mono (Nat.le_add_right _ _) total)

theorem fill_fills (t : Table) {span : Span} (hspan : span.start ≤ span.stop) (total : Nat)
    (draw : Nat → Draw σ Row) (s : σ) :
    (∃ high ≤ span.stop, Fills t batchSize span.start (fill t span total draw s).1
      (drawAll draw (idsFrom 1 total) s).1 high) ∧
    (fill t span total draw s).2 = (drawAll draw (idsFrom 1 total) s).2 := by
  have hbatches : total - 0 ≤ (total / batchSize + 1) * batchSize := by
    unfold batchSize
    omega
  exact fillSteps_fills t hspan total draw _ s (Nat.zero_le _) hbatches
    (Span.start_le_at hspan 0 total)

/-! ## Rows that wait -/

/-- What is kept while the orders are gone through: fewer rows wait than a batch has, and none when
the last order is done. -/
structure ItemDraft.Tidy (d : ItemDraft) (done orders : Nat) : Prop where
  waiting : d.waiting = d.batch.length
  few : d.waiting < batchSize
  last : done = orders → d.batch = []

/-- What becomes of the rows that wait when an order with items is added. -/
theorem ItemDraft.settle_add (d : ItemDraft) {items : List OrderItem} (hitems : items ≠ [])
    (order last : Nat) :
    (d.add items).settle order last =
      if batchSize ≤ d.waiting + items.length ∨ order = last then
        { steps := .report (itemSpan.at order last) "Generating order items..." ::
            .send (.insert .orderItems (d.batch.reverse ++ items.map OrderItem.row)) :: d.steps
          items := d.items + items.length }
      else d.add items := by
  simp only [settle, Bool.or_eq_true, decide_eq_true_eq, beq_iff_eq]
  simp [add, flush, hitems]

/-- From one draft to a later one, the rows that wait and then those of the items in between are put
into the table. -/
structure ItemDraft.Fills (most low : Nat) (d later : ItemDraft) (items : List OrderItem) :
    Prop where
  steps : ∃ steps high, high ≤ itemSpan.stop ∧ later.steps = steps.reverse ++ d.steps ∧
    Sample.Fills .orderItems most low steps (d.batch.reverse ++ items.map OrderItem.row)
      high
  count : later.items = d.items + items.length

/-- The rows that waited and those of an order are sent as one batch. -/
theorem ItemDraft.Fills.of_sent {d later : ItemDraft} {items others : List OrderItem}
    {most low progress : Nat} {task : String}
    (h : Fills most progress
      { steps := .report progress task ::
          .send (.insert .orderItems (d.batch.reverse ++ items.map OrderItem.row)) :: d.steps
        items := d.items + items.length } later others)
    (hitems : items ≠ []) (hsize : d.batch.length + items.length ≤ most) (hrises : low ≤ progress) :
    d.Fills most low later (items ++ others) := by
  obtain ⟨⟨steps, high, hhigh, hsteps, hfills⟩, hcount⟩ := h
  have hnonempty : d.batch.reverse ++ items.map OrderItem.row ≠ [] := by simp [hitems]
  have hlength : (d.batch.reverse ++ items.map OrderItem.row).length ≤ most := by simpa using hsize
  have hbatch := Sample.Fills.batch task hnonempty hlength hrises hfills
  rw [List.reverse_nil, List.nil_append, List.append_assoc, ← List.map_append] at hbatch
  refine ⟨⟨_, high, hhigh, ?_, hbatch⟩, ?_⟩
  · simp [hsteps]
  · simp [hcount, Nat.add_assoc]

/-- The rows of an order wait with the others. -/
theorem ItemDraft.Fills.of_add {d later : ItemDraft} {items others : List OrderItem}
    {most low : Nat} (h : Fills most low (d.add items) later others) :
    d.Fills most low later (items ++ others) := by
  obtain ⟨⟨steps, high, hhigh, hsteps, hfills⟩, hcount⟩ := h
  refine ⟨⟨steps, high, hhigh, hsteps, ?_⟩, ?_⟩
  · simpa [add] using hfills
  · simp [hcount, add, Nat.add_assoc]

/-- The orders that are not yet done. -/
theorem itemDraft_fills {count : Draw σ Nat} (item : (order id : Nat) → Draw σ OrderItem)
    {orders most : Nat} (hcount : ∀ s, 1 ≤ (count s).1 ∧ (count s).1 ≤ most) (left : Nat)
    {done low : Nat} {d : ItemDraft} (s : σ) (hleft : done + left = orders)
    (htidy : d.Tidy done orders) (hlow : low ≤ itemSpan.at done orders) :
    d.Fills (batchSize + most) low (itemDraft count item orders (idsFrom (done + 1) left) d s).1
      (drawItems count item (idsFrom (done + 1) left) (d.items + 1) s).1 := by
  have hspan : itemSpan.start ≤ itemSpan.stop := by decide
  induction left generalizing done low d s with
  | zero =>
    have hempty := htidy.last hleft
    have hstop := Span.at_le_stop hspan (Nat.le_of_eq hleft)
    refine ⟨⟨[], low, Nat.le_trans hlow hstop, rfl, ?_⟩, rfl⟩
    rw [hempty]
    exact .nothing low
  | succ left ih =>
    have hids : idsFrom (done + 1) (left + 1) = (done + 1) :: idsFrom (done + 1 + 1) left := rfl
    obtain ⟨hone, hmost⟩ := hcount s
    have hlength := length_drawAll (item (done + 1)) (idsFrom (d.items + 1) (count s).1) (count s).2
    rw [length_idsFrom] at hlength
    rw [hids, itemDraft, drawItems]
    generalize count s = n at hone hmost hlength ⊢
    generalize drawAll (item (done + 1)) (idsFrom (d.items + 1) n.1) n.2 = items at hlength ⊢
    have hnonempty : items.1 ≠ [] := List.ne_nil_of_length_pos (by omega)
    have hfew := htidy.few
    have hpositive : 0 < batchSize := by decide
    have hleft : done + 1 + left = orders := by omega
    have hstep : itemSpan.at done orders ≤ itemSpan.at (done + 1) orders :=
      Span.at_mono (Nat.le_add_right _ _) orders
    have hnumber : d.items + 1 + n.1 = d.items + items.1.length + 1 := by omega
    simp only [d.settle_add hnonempty, hnumber]
    split
    next =>
      refine .of_sent (ih items.2 hleft ⟨rfl, hpositive, fun _ => rfl⟩ (Nat.le_refl _)) hnonempty ?_
        (Nat.le_trans hlow hstep)
      have hwaiting := htidy.waiting
      omega
    next hwaits =>
      obtain ⟨hfewer, hnotlast⟩ := not_or.mp hwaits
      have hwaiting : (d.add items.1).waiting = (d.add items.1).batch.length := by
        simp [ItemDraft.add, htidy.waiting, Nat.add_comm]
      exact .of_add (ih items.2 hleft
        ⟨hwaiting, Nat.lt_of_not_le hfewer, fun h => absurd h hnotlast⟩ (Nat.le_trans hlow hstep))

/-! ## All stages -/

/-- The steps put rows into a table while the progress goes through the span. -/
def FillsSpan (t : Table) (most : Nat) (span : Span) (steps : List Step) (rows : List Row) : Prop :=
  ∃ high ≤ span.stop, Fills t most span.start steps rows high

/-- The steps before the first rows. -/
def preparation (b : Backend) : List Step :=
  .report 0 "Preparing tables..." :: (schema b).map .send ++
    .report 2 "Clearing existing data..." :: Table.all.reverse.map (.send ∘ .clear) ++
    [.report 5 "Generating customers..."]

/-- The steps fill the tables one after another, from the first to the last. -/
inductive Stages (r : Request) (data : Data) : List Step → Prop
  | intro {customers products orders items : List Step}
      (fillsCustomers : FillsSpan .customers batchSize ⟨5, 25⟩ customers (data.rows .customers))
      (fillsProducts : FillsSpan .products batchSize ⟨25, 40⟩ products (data.rows .products))
      (fillsOrders : FillsSpan .orders batchSize ⟨40, 70⟩ orders (data.rows .orders))
      (fillsItems : FillsSpan .orderItems (batchSize + 2 * r.itemsPerOrder) itemSpan items
        (data.rows .orderItems)) :
      Stages r data (customers ++ .report 25 "Generating products..." :: products ++
        .report 40 "Generating orders..." :: orders ++
        .report 70 "Generating order items..." :: items)

/-- A table is filled with the rows of what is drawn. -/
theorem fill_drawRow {α : Type} (t : Table) (span : Span) (hspan : span.start ≤ span.stop)
    (total : Nat) (row : α → Row) (draw : Nat → Draw σ α) (s : σ) :
    FillsSpan t batchSize span (fill t span total (drawRow row draw) s).1
      ((drawAll draw (idsFrom 1 total) s).1.map row) ∧
    (fill t span total (drawRow row draw) s).2 = (drawAll draw (idsFrom 1 total) s).2 := by
  have hfill := fill_fills t hspan total (drawRow row draw) s
  rwa [drawAll_drawRow] at hfill

/-- All order items are put into their table. -/
theorem itemSteps_fills [Source σ] {r : Request} (hvalid : r.Valid) (s : σ) :
    let items := (drawItems (drawItemCount r.itemsPerOrder) (OrderItem.draw r.products)
      (idsFrom 1 r.orders) 1 s).1
    FillsSpan .orderItems (batchSize + 2 * r.itemsPerOrder) itemSpan (itemSteps r s).1.1
      (items.map OrderItem.row) ∧ (itemSteps r s).1.2 = items.length := by
  intro items
  have hfirst : itemSpan.start ≤ itemSpan.at 0 r.orders := Span.start_le_at (by decide) 0 _
  obtain ⟨⟨steps, high, hhigh, hsteps, hfills⟩, hcount⟩ := itemDraft_fills (d := {})
    (OrderItem.draw r.products) (drawItemCount_mem hvalid.itemsPerOrder.1) r.orders s
    (Nat.zero_add _) ⟨rfl, by decide, fun _ => rfl⟩ hfirst
  refine ⟨⟨high, hhigh, ?_⟩, ?_⟩
  · rw [itemSteps, hsteps]
    simpa using hfills
  · rw [itemSteps, hcount, Nat.zero_add]

/-- **A generation, stage by stage.** The tables are prepared and then filled with the data that is
drawn; the number of order items is counted right. -/
theorem generation_stages [Source σ] {r : Request} (hvalid : r.Valid) (b : Backend) (s : σ) :
    ∃ filling, Stages r (drawData r s) filling ∧
      generation b r s = (preparation b ++ filling ++ [.report 100 "Completed!"],
        (drawData r s).items.length) := by
  have hcustomers := fill_drawRow .customers ⟨5, 25⟩ (by decide) r.customers Customer.row
    (Customer.draw : Nat → Draw σ Customer)
  have hproducts := fill_drawRow .products ⟨25, 40⟩ (by decide) r.products Product.row
    (Product.draw : Nat → Draw σ Product)
  have horders := fill_drawRow .orders ⟨40, 70⟩ (by decide) r.orders Order.row
    (Order.draw r.customers : Nat → Draw σ Order)
  refine ⟨_, .intro (hcustomers s).1 (hproducts _).1 (horders _).1 (itemSteps_fills hvalid _).1, ?_⟩
  simp only [generation, (hcustomers _).2, (hproducts _).2, (horders _).2,
    (itemSteps_fills hvalid _).2, preparation, drawData]
  simp

end QueryGate.Sample
