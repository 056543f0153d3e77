import Mathlib.Data.List.Nodup
import QueryGate.Proofs.Sample.Tables

/-!
# The shop that a generation leaves

A generation that reports has sent statements that no database with sample tables, whatever these
hold, can fail on account of a key: rows are cleared before what they refer to, and stand before
what refers to them. Behind it the tables hold the data that was asked for and nothing else.

* `Data.stored d t`: the rows of a table as they are stored.
* `sentRows sent t`: the rows that statements put into a table.

Headline: `generate_fills_shop`.
-/

namespace QueryGate.Sample

open QueryGate.Random

/-! ## Rows as they are stored -/

/-- The rows of a table as they are stored. -/
def Data.stored (d : Data) (t : Table) : List (List Value) := (d.rows t).map storedRow

/-- The keys of a table's rows. -/
def Data.ids (d : Data) : Table → List Nat
  | .customers => d.customers.map (·.id)
  | .products => d.products.map (·.id)
  | .orders => d.orders.map (·.id)
  | .orderItems => d.items.map (·.id)

/-- A place that holds a number in every row. -/
theorem integersAt_stored {α : Type} {row : α → Row} {place : Nat} {f : α → Nat}
    (h : ∀ a, (storedRow (row a))[place]? = some (.int (Int64.ofNat (f a)))) (l : List α) :
    integersAt place ((l.map row).map storedRow) = (l.map f).map Int64.ofNat := by
  induction l with
  | nil => rfl
  | cons a l ih =>
    rw [List.map_cons, List.map_cons, integersAt, List.filterMap_cons, integerAt, h]
    exact congrArg _ ih

theorem Data.keys_stored (d : Data) (t : Table) :
    integersAt 0 (d.stored t) = (d.ids t).map Int64.ofNat := by
  cases t <;> exact integersAt_stored (fun _ => rfl) _

/-- A place that holds keys of a table in every row. -/
theorem Data.mem_keys_of_place {d : Data} {p : Table} {α : Type} {row : α → Row} {place : Nat}
    {f : α → Nat} (hplace : ∀ a, (storedRow (row a))[place]? = some (.int (Int64.ofNat (f a))))
    {l : List α} (hl : ∀ a ∈ l, f a ∈ d.ids p) :
    ∀ k ∈ integersAt place ((l.map row).map storedRow), k ∈ integersAt 0 (d.stored p) := by
  intro k hk
  rw [integersAt_stored hplace, List.map_map] at hk
  obtain ⟨a, ha, rfl⟩ := List.mem_map.mp hk
  rw [Data.keys_stored]
  exact List.mem_map_of_mem (hl a ha)

/-- Keys below the 64-bit limit are told apart. -/
theorem nodup_ofNat {n : Nat} (h : n < 9223372036854775808) :
    ((idsFrom 1 n).map Int64.ofNat).Nodup := by
  refine List.Nodup.map_on (fun a ha b hb hab => ?_) (nodup_idsFrom 1 n)
  have ha := (mem_idsFrom.mp ha).2
  have hb := (mem_idsFrom.mp hb).2
  have hint := congrArg Int64.toInt hab
  rw [Int64.toInt_ofNat_of_lt (by omega), Int64.toInt_ofNat_of_lt (by omega)] at hint
  exact Int.ofNat.inj hint

namespace Data.Meets

variable {d : Data} {r : Request}

theorem nodup_keys (h : d.Meets r) (hvalid : r.Valid) (t : Table) :
    (integersAt 0 (d.stored t)).Nodup := by
  obtain ⟨⟨-, hcustomers⟩, ⟨-, hproducts⟩, horders, ⟨-, hitems⟩⟩ := hvalid
  have hcount : d.items.length ≤ maxOrders * (2 * maxItemsPerOrder) :=
    Nat.le_trans h.itemCount (Nat.mul_le_mul horders (Nat.mul_le_mul_left 2 hitems))
  rw [Data.keys_stored]
  cases t with
  | customers =>
    rw [Data.ids, h.customers]
    exact nodup_ofNat (Nat.lt_of_le_of_lt hcustomers (by decide))
  | products =>
    rw [Data.ids, h.products]
    exact nodup_ofNat (Nat.lt_of_le_of_lt hproducts (by decide))
  | orders =>
    rw [Data.ids, h.orders]
    exact nodup_ofNat (Nat.lt_of_le_of_lt horders (by decide))
  | orderItems =>
    rw [Data.ids, h.items]
    exact nodup_ofNat (Nat.lt_of_le_of_lt hcount (by decide))

/-- Every reference leads to a row. -/
theorem references (h : d.Meets r) {t : Table} {ref : Relational.Reference}
    (href : ref ∈ t.declared) {p : Table} (hp : ref.parent = p.identifier) :
    ∀ k ∈ integersAt ref.place (d.stored t), k ∈ integersAt 0 (d.stored p) := by
  have hsame {q : Table} (hq : q.identifier = p.identifier) : q = p :=
    Table.eq_of_sameName (hq ▸ sameName_refl _)
  cases t with
  | customers => exact absurd href List.not_mem_nil
  | products => exact absurd href List.not_mem_nil
  | orders =>
    obtain rfl : ref = ⟨1, Table.customers.identifier⟩ := List.mem_singleton.mp href
    obtain rfl := hsame hp
    exact Data.mem_keys_of_place (fun _ => rfl) h.customerOf
  | orderItems =>
    obtain rfl | href := List.mem_cons.mp href
    · obtain rfl := hsame hp
      exact Data.mem_keys_of_place (fun _ => rfl) h.orderOf
    · obtain rfl : ref = ⟨2, Table.products.identifier⟩ := List.mem_singleton.mp href
      obtain rfl := hsame hp
      exact Data.mem_keys_of_place (fun _ => rfl) h.productOf

/-- The rows of a table may be put into it when it is empty and what it refers to is filled. -/
theorem fits (h : d.Meets r) (hvalid : r.Valid) {contents : Table → List (List Value)} {t : Table}
    (hempty : contents t = [])
    (hparents : ∀ reference ∈ t.references, contents reference.parent = d.stored reference.parent) :
    Fits contents t (d.stored t) where
  keys := by
    rw [hempty, List.nil_append]
    exact h.nodup_keys hvalid t
  references ref href p hp k hk := by
    obtain ⟨reference, hreference, hparent⟩ := Table.parent_of_declared href
    obtain rfl : reference.parent = p :=
      Table.eq_of_sameName (by rw [← hparent, hp]; exact sameName_refl _)
    rw [hparents reference hreference]
    exact h.references href hp k hk

end Data.Meets

/-! ## Rows as they are sent -/

/-- The rows that statements put into a table. -/
def sentRows (sent : List Statement) (t : Table) : List Row :=
  sent.flatMap fun
    | .insert t' rows => if t' = t then rows else []
    | _ => []

/-- No insert is empty, and only order items may come in batches of more rows than usual. -/
def WellBatched (sent : List Statement) : Prop :=
  ∀ t rows, .insert t rows ∈ sent → rows ≠ [] ∧ (t ≠ .orderItems → rows.length ≤ batchSize)

theorem WellBatched.append {first second : List Statement} (h : WellBatched first)
    (h' : WellBatched second) : WellBatched (first ++ second) :=
  fun t rows hmem => (List.mem_append.mp hmem).elim (h t rows) (h' t rows)

theorem sentRows_append (first second : List Statement) (t : Table) :
    sentRows (first ++ second) t = sentRows first t ++ sentRows second t :=
  List.flatMap_append

theorem Fills.sentRows {t : Table} {most low high : Nat} {steps : List Step} {rows : List Row}
    (h : Fills t most low steps rows high) (t' : Table) :
    Sample.sentRows (steps.filterMap Step.sent?) t' = if t = t' then rows else [] := by
  induction h with
  | nothing => simp [Sample.sentRows]
  | batch task _ _ _ _ ih =>
    simp only [List.filterMap_cons, Step.sent?]
    rw [Sample.sentRows, List.flatMap_cons, ← Sample.sentRows, ih]
    by_cases heq : t = t' <;> simp [heq]

theorem Fills.wellBatched {t : Table} {most low high : Nat} {steps : List Step} {rows : List Row}
    (h : Fills t most low steps rows high) (hmost : t ≠ .orderItems → most ≤ batchSize) :
    WellBatched (steps.filterMap Step.sent?) := by
  induction h with
  | nothing => exact fun _ _ h => absurd h List.not_mem_nil
  | batch task nonempty size _ _ ih =>
    intro t' rows' hmem
    simp only [List.filterMap_cons, Step.sent?] at hmem
    rcases List.mem_cons.mp hmem with heq | hmem
    · obtain ⟨rfl, rfl⟩ := Statement.insert.inj heq
      exact ⟨nonempty, fun ht => Nat.le_trans size (hmost ht)⟩
    · exact ih t' rows' hmem

/-- No rows are sent before the tables are prepared. -/
theorem preparation_sends (b : Backend) :
    (∀ t, sentRows ((preparation b).filterMap Step.sent?) t = []) ∧
      WellBatched ((preparation b).filterMap Step.sent?) := by
  rw [preparation_sent]
  constructor
  · intro t
    cases b <;> rfl
  · intro t rows
    cases b <;> simp [schema, createStatements, Table.all, Table.indexes]

namespace Stages

variable {r : Request} {data : Data} {filling : List Step}

/-- The stages send the data, well batched. -/
theorem sends (h : Stages r data filling) :
    (∀ t, sentRows (filling.filterMap Step.sent?) t = data.rows t) ∧
      WellBatched (filling.filterMap Step.sent?) := by
  obtain ⟨⟨_, -, hcustomers⟩, ⟨_, -, hproducts⟩, ⟨_, -, horders⟩, ⟨_, -, hitems⟩⟩ := h
  simp only [List.filterMap_append, List.filterMap_cons, Step.sent?]
  constructor
  · intro t
    simp only [sentRows_append, hcustomers.sentRows, hproducts.sentRows, horders.sentRows,
      hitems.sentRows]
    cases t <;> simp
  · exact (((hcustomers.wellBatched fun _ => Nat.le_refl _).append
      (hproducts.wellBatched fun _ => Nat.le_refl _)).append
      (horders.wellBatched fun _ => Nat.le_refl _)).append
      (hitems.wellBatched fun h => absurd rfl h)

/-- The stages put the data into empty tables. -/
theorem store (h : Stages r data filling) (hvalid : r.Valid) (hmeets : data.Meets r)
    {db : Relational.Database} (hready : Ready db) (hempty : ∀ t, Holds db t []) :
    ∃ after, storeAll db (filling.filterMap Step.sent?) = (after, none) ∧
      Holding after data.stored := by
  obtain ⟨⟨_, -, hcustomers⟩, ⟨_, -, hproducts⟩, ⟨_, -, horders⟩, ⟨_, -, hitems⟩⟩ := h
  have hstart : Holding db fun _ => [] := ⟨hready, hempty⟩
  obtain ⟨db₁, h₁, hdb₁⟩ := fills_store hcustomers hstart
    (hmeets.fits hvalid rfl (by simp [Table.references]))
  obtain ⟨db₂, h₂, hdb₂⟩ := fills_store hproducts hdb₁
    (hmeets.fits hvalid rfl (by simp [Table.references]))
  obtain ⟨db₃, h₃, hdb₃⟩ := fills_store horders hdb₂
    (hmeets.fits hvalid rfl (by simp [Table.references, filled, Data.stored]))
  obtain ⟨db₄, h₄, hdb₄⟩ := fills_store hitems hdb₃
    (hmeets.fits hvalid rfl (by simp [Table.references, filled, Data.stored]))
  refine ⟨db₄, ?_, hdb₄.ready, fun t => ?_⟩
  · simp only [List.filterMap_append, List.filterMap_cons, Step.sent?, List.append_assoc]
    rw [storeAll_append h₁, storeAll_append h₂, storeAll_append h₃, h₄]
  · cases t with
    | customers => exact hdb₄.holds .customers
    | products => exact hdb₄.holds .products
    | orders => exact hdb₄.holds .orders
    | orderItems => exact hdb₄.holds .orderItems

end Stages

/-- **The shop that a generation leaves.** Whatever the sample tables hold, the statements of a
generation that reports are carried out without a fault. Behind them the tables hold data that meets
the request, which is what the inserts put there and what the report counts. -/
theorem generate_fills_shop {σ : Type} [Source σ] {b : Backend} {db : Database} {source : σ}
    {status : Status} {r : Request} {report : Report} {store : Relational.Database}
    (hok : (generate b db source status r).result = .ok report) (hstore : AsDeclared store) :
    let sent := (generate b db source status r).calls.map (·.statement)
    ∃ data after, Data.Meets data r ∧ storeAll store sent = (after, none) ∧
      (∀ t, ∃ table, after.table? t.identifier = some table ∧ table.rows = data.stored t) ∧
      (∀ t, sentRows sent t = data.rows t) ∧ WellBatched sent ∧
      report = ⟨(sentRows sent .customers).length, (sentRows sent .products).length,
        (sentRows sent .orders).length, (sentRows sent .orderItems).length, 0⟩ := by
  intro sent
  obtain ⟨hvalid, hreport, hcalls⟩ := generate_ok hok
  obtain ⟨filling, hstages, hplan⟩ := generation_stages hvalid b source
  have hmeets := drawData_meets hvalid source
  have hsent : sent = (preparation b).filterMap Step.sent? ++ filling.filterMap Step.sent? := by
    simp only [sent, hcalls, wholeCalls, seen_statements, hplan, List.filterMap_append]
    exact List.append_nil _
  obtain ⟨hnone, hbefore⟩ := preparation_sends b
  obtain ⟨hrows, hbatched⟩ := hstages.sends
  have hall (t : Table) : sentRows sent t = (drawData r source).rows t := by
    rw [hsent, sentRows_append, hnone, List.nil_append, hrows]
  obtain ⟨prepared, hprepared, hready, hempty⟩ := prepare_store hstore b
  obtain ⟨after, hafter, hholding⟩ := hstages.store hvalid hmeets hready hempty
  refine ⟨drawData r source, after, hmeets, ?_, fun t => ?_, hall, ?_, ?_⟩
  · rw [hsent, storeAll_append hprepared, hafter]
  · obtain ⟨table, htable⟩ := hholding.ready.present t
    exact ⟨table, htable, (hholding.holds t).rows htable⟩
  · rw [hsent]
    exact hbefore.append hbatched
  · have hlength {α : Type} (l : List α) (f : α → Nat) {n : Nat} (h : l.map f = idsFrom 1 n) :
        l.length = n := by
      simpa [length_idsFrom] using congrArg List.length h
    simp only [hall, hreport, wholeReport, hplan, Data.rows, List.length_map,
      hlength _ _ hmeets.customers, hlength _ _ hmeets.products, hlength _ _ hmeets.orders]

/-- Sample tables are as they are declared, whatever they hold. -/
theorem asDeclared_stored (rows : Table → List (List Value)) :
    AsDeclared { tables := Table.all.map fun t => { t.stored false with rows := rows t } } where
  own t u hu hname := by
    obtain ⟨t', -, rfl⟩ := List.mem_map.mp hu
    obtain rfl : t = t' := Table.eq_of_sameName hname
    exact ⟨rfl, rfl⟩
  others u hu _ _ _ _ := by
    obtain ⟨t', -, rfl⟩ := List.mem_map.mp hu
    exact ⟨t', sameName_refl _⟩

/-- A source of nothing but zeros. -/
inductive Zeros where
  | zeros

instance : Source Zeros where
  next s := (0, s)

/-- One order with one item, in a shop where every table has the same key twice. -/
theorem generate_fills_untidy_shop :
    let run := generate .sqlite (fun _ _ => none) Zeros.zeros {} ⟨1, 1, 1, 1⟩
    let store : Relational.Database :=
      { tables := Table.all.map fun t => { t.stored false with rows := [[.int 7], [.int 7]] } }
    run.result = .ok ⟨1, 1, 1, 1, 0⟩ ∧ AsDeclared store ∧
      (storeAll store (run.calls.map (·.statement))).2 = none := by
  intro run store
  have hok : run.result = .ok ⟨1, 1, 1, 1, 0⟩ := rfl
  have hstore : AsDeclared store := asDeclared_stored fun _ => [[.int 7], [.int 7]]
  obtain ⟨_, _, -, hstored, -⟩ := generate_fills_shop hok hstore
  exact ⟨hok, hstore, congrArg Prod.snd hstored⟩

end QueryGate.Sample
