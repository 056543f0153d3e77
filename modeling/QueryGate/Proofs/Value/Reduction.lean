import Mathlib.Data.List.Basic
import QueryGate.Proofs.Value.Counts
import QueryGate.Value.Plan

/-!
# Plans reduced

A plan is read twice, once for the rows that it scans and once for the indexes that it uses. Both
readings take from each step the first field with a label, whatever else the step holds. Here the
two answers are said without the folds that find them.

* `Gathered`: what the members of a list have to give, in order, by those that give something.
* `total_append`, `total_perm`: a sum that is held at the largest count part-way is the sum held
  there at the end. So it neither wraps nor depends on the order or the grouping of the steps.
* `FirstSeen`: the distinct names in the order of their first appearance. `FirstSeen.again` and
  `FirstSeen.snoc` are its two steps, `FirstSeen.addNames` the run.
* `reduction`: the two answers of every plan, and the order and the parts of the steps.
-/

namespace QueryGate

open Text

/-! ## Lookups -/

namespace Record

/-- `v` stands behind the first label of the record that is `label` up to the case of ASCII
letters. -/
def First (r : Record) (label : String) (v : Value) : Prop :=
  ∃ before l after, r.fields = before ++ (l, v) :: after ∧ eqIgnoreAsciiCase l label = true ∧
    ∀ f ∈ before, eqIgnoreAsciiCase f.1 label = false

theorem getIgnoreCase?_eq_some_iff {r : Record} {label : String} {v : Value} :
    r.getIgnoreCase? label = some v ↔ r.First label v := by
  unfold getIgnoreCase? First
  simp only [Option.map_eq_some_iff, List.find?_eq_some_iff_append, Prod.exists]
  constructor
  · rintro ⟨l, v, ⟨hl, before, after, hfields, hbefore⟩, rfl⟩
    exact ⟨before, l, after, hfields, hl, fun f hf => by simpa using hbefore f hf⟩
  · rintro ⟨before, l, after, hfields, hl, hbefore⟩
    exact ⟨l, v, ⟨hl, before, after, hfields, fun f hf => by simp [hbefore f hf]⟩, rfl⟩

end Record

/-- What the members of a list stand in relation `R` to, in order; a member that stands in it to
nothing is passed over. -/
inductive Gathered {α β : Type} (R : α → β → Prop) : List α → List β → Prop where
  | nil : Gathered R [] []
  | found {a : α} {b : β} {as : List α} {bs : List β} (h : R a b) (t : Gathered R as bs) :
    Gathered R (a :: as) (b :: bs)
  | passed {a : α} {as : List α} {bs : List β} (h : ∀ b, ¬ R a b) (t : Gathered R as bs) :
    Gathered R (a :: as) bs

theorem gathered_iff {α β : Type} {f : α → Option β} {R : α → β → Prop}
    (hf : ∀ a b, f a = some b ↔ R a b) {as : List α} {bs : List β} :
    Gathered R as bs ↔ as.filterMap f = bs := by
  constructor
  · intro h
    induction h with
    | nil => rfl
    | found h _ ih => rw [List.filterMap_cons_some ((hf _ _).mpr h), ih]
    | passed h _ ih =>
      rw [List.filterMap_cons_none (Option.eq_none_iff_forall_ne_some.mpr fun b hb =>
        h b ((hf _ b).mp hb)), ih]
  · rintro rfl
    induction as with
    | nil => exact .nil
    | cons a as ih =>
      cases ha : f a with
      | none =>
        rw [List.filterMap_cons_none ha]
        exact .passed (fun b hb => by simp [(hf a b).mpr hb] at ha) ih
      | some b =>
        rw [List.filterMap_cons_some ha]
        exact .found ((hf a b).mp ha) ih

theorem gathered_nil_iff {α β : Type} {R : α → β → Prop} {as : List α} :
    Gathered R as [] ↔ ∀ a ∈ as, ∀ b, ¬ R a b := by
  induction as with
  | nil => simp [Gathered.nil]
  | cons a as ih =>
    rw [List.forall_mem_cons, ← ih]
    constructor
    · rintro (_ | _ | ⟨h, t⟩)
      exact ⟨h, t⟩
    · exact fun ⟨h, t⟩ => .passed h t

namespace Plan

/-! ## Rows scanned -/

/-- The step reports `n` rows. -/
def Reports (step : Record) (n : Nat) : Prop := ∃ v, step.First "rows" v ∧ v.Counts n

theorem gathered_rowCounts {plan : Plan} {counts : List Nat} :
    Gathered Reports plan counts ↔ rowCounts plan = counts :=
  gathered_iff fun step n => by
    simp only [Reports, Option.bind_eq_some_iff, Record.getIgnoreCase?_eq_some_iff,
      Value.count?_eq_some_iff]

/-- The sum of counts, held at the largest one; no counts have none. -/
def total : List Nat → Option Nat
  | [] => none
  | counts => some (min maxCount counts.sum)

theorem total_of_ne_nil {counts : List Nat} (h : counts ≠ []) :
    total counts = some (min maxCount counts.sum) := by
  cases counts with
  | nil => exact absurd rfl h
  | cons => rfl

theorem total_eq_none_iff {counts : List Nat} : total counts = none ↔ counts = [] := by
  cases counts <;> simp [total]

theorem satAdd_le (a b : Nat) : satAdd a b ≤ maxCount := Nat.min_le_left ..

/-- What is held part-way is held again at the end. -/
theorem min_satAdd_add (a b c : Nat) :
    min maxCount (satAdd a b + c) = min maxCount (a + (b + c)) := by
  unfold satAdd
  omega

/-- Holding the sum of the counts so far at the largest count does not change where the rest of
them end. -/
theorem foldl_satAdd (counts : List Nat) : ∀ t ≤ maxCount,
    counts.foldl (fun total n => some (satAdd (total.getD 0) n)) (some t) =
      some (min maxCount (t + counts.sum)) := by
  induction counts with
  | nil => intro t ht; simp [ht]
  | cons n counts ih =>
    intro t ht
    rw [List.foldl_cons, Option.getD_some, ih _ (satAdd_le ..), List.sum_cons, min_satAdd_add]

theorem rowsScanned_eq (plan : Plan) : rowsScanned plan = total (rowCounts plan) := by
  unfold rowsScanned
  cases rowCounts plan with
  | nil => rfl
  | cons n counts =>
    rw [List.foldl_cons, Option.getD_none, foldl_satAdd _ _ (satAdd_le ..), min_satAdd_add,
      Nat.zero_add, total_of_ne_nil (List.cons_ne_nil _ _), List.sum_cons]

/-- **The total of two parts** is the sum of their totals, held at the largest count. -/
theorem total_append (a b : List Nat) :
    total (a ++ b) = Option.merge satAdd (total a) (total b) := by
  cases a with
  | nil => rw [List.nil_append, total, Option.merge_none_left]
  | cons m a =>
    cases b with
    | nil => rw [List.append_nil]; rfl
    | cons n b =>
      simp only [total, List.cons_append, Option.merge_some_some, List.sum_cons, List.sum_append,
        satAdd]
      congr 1
      omega

theorem total_perm {a b : List Nat} (h : a.Perm b) : total a = total b := by
  cases a with
  | nil => rw [List.nil_perm.mp h]
  | cons n a =>
    have hb : b ≠ [] := fun hb => absurd (hb ▸ h) (by simp)
    rw [total_of_ne_nil (List.cons_ne_nil _ _), total_of_ne_nil hb, h.sum_eq]

theorem rowsScanned_eq_none_iff {plan : Plan} :
    rowsScanned plan = none ↔ ∀ step ∈ plan, ∀ n, ¬ Reports step n := by
  rw [rowsScanned_eq, total_eq_none_iff, ← gathered_rowCounts, gathered_nil_iff]

theorem rowsScanned_eq_some_iff {plan : Plan} {n : Nat} : rowsScanned plan = some n ↔
    ∃ counts, Gathered Reports plan counts ∧ counts ≠ [] ∧ n = min maxCount counts.sum := by
  rw [rowsScanned_eq]
  constructor
  · intro h
    have hne : rowCounts plan ≠ [] := fun he => by simp [he, total] at h
    rw [total_of_ne_nil hne] at h
    exact ⟨_, gathered_rowCounts.mpr rfl, hne, (Option.some.inj h).symm⟩
  · rintro ⟨counts, hcounts, hne, rfl⟩
    rw [gathered_rowCounts.mp hcounts, total_of_ne_nil hne]

theorem rowsScanned_perm {plan plan' : Plan} (h : plan'.Perm plan) :
    rowsScanned plan' = rowsScanned plan := by
  rw [rowsScanned_eq, rowsScanned_eq]
  exact total_perm (h.filterMap _)

/-- **A plan in parts** scans what the parts scan together. -/
theorem rowsScanned_flatten (parts : List Plan) :
    rowsScanned parts.flatten = (parts.map rowsScanned).foldr (Option.merge satAdd) none := by
  induction parts with
  | nil => rfl
  | cons part parts ih =>
    have hcounts : rowCounts (part ++ parts.flatten) = rowCounts part ++ rowCounts parts.flatten :=
      List.filterMap_append
    rw [List.flatten_cons, List.map_cons, List.foldr_cons, ← ih, rowsScanned_eq, hcounts,
      total_append, ← rowsScanned_eq, ← rowsScanned_eq]

/-! ## Indexes used -/

/-- The step uses the index of that name. -/
def Uses (step : Record) (name : String) : Prop :=
  ∃ v, step.First "key" v ∧ v ≠ .null ∧ v.display = name ∧ name ≠ ""

theorem indexName?_eq_some_iff {step : Record} {name : String} :
    indexName? step = some name ↔ Uses step name := by
  have hnull (v : Value) : (!v.isNull) = true ↔ v ≠ .null := by cases v <;> simp [Value.isNull]
  have hempty : (!name.isEmpty) = true ↔ name ≠ "" := by simp
  simp only [indexName?, Uses, Option.filter_eq_some_iff, Option.map_eq_some_iff,
    Record.getIgnoreCase?_eq_some_iff, hnull, hempty]
  constructor
  · rintro ⟨⟨v, ⟨hfirst, hv⟩, hname⟩, hne⟩
    exact ⟨v, hfirst, hv, hname, hne⟩
  · rintro ⟨v, hfirst, hv, hname, hne⟩
    exact ⟨⟨v, ⟨hfirst, hv⟩, hname⟩, hne⟩

/-- The members of `all`, each once, in the order of their first appearance. -/
structure FirstSeen (all kept : List String) : Prop where
  mem : ∀ name, name ∈ kept ↔ name ∈ all
  once : kept.Nodup
  order : kept.Pairwise fun a b => all.idxOf a < all.idxOf b

theorem FirstSeen.nil : FirstSeen [] [] := ⟨by simp, .nil, .nil⟩

/-- Names appear in one order only. -/
theorem FirstSeen.unique {all kept kept' : List String} (h : FirstSeen all kept)
    (h' : FirstSeen all kept') : kept = kept' := by
  have hmem (name : String) : name ∈ kept ↔ name ∈ kept' := (h.mem name).trans (h'.mem name).symm
  exact ((List.perm_ext_iff_of_nodup h.once h'.once).mpr hmem).eq_of_pairwise
    (fun a b _ _ hab hba => absurd hba hab.asymm) h.order h'.order

/-- What comes behind does not move the first appearance of a name. -/
theorem FirstSeen.idxOf_append {all kept more : List String} {a : String} (h : FirstSeen all kept)
    (ha : a ∈ kept) : (all ++ more).idxOf a = all.idxOf a :=
  List.idxOf_append_of_mem ((h.mem a).mp ha)

/-- A name that is seen already changes nothing. -/
theorem FirstSeen.again {all kept : List String} {n : String} (h : FirstSeen all kept)
    (hn : n ∈ kept) : FirstSeen (all ++ [n]) kept := by
  refine ⟨fun name => ?_, h.once, h.order.imp_of_mem fun ha hb hlt => ?_⟩
  · simp only [h.mem, List.mem_append, List.mem_singleton, iff_self_or]
    rintro rfl
    exact (h.mem name).mp hn
  · rwa [h.idxOf_append ha, h.idxOf_append hb]

/-- A new name goes behind those seen before it. -/
theorem FirstSeen.snoc {all kept : List String} {n : String} (h : FirstSeen all kept)
    (hn : n ∉ kept) : FirstSeen (all ++ [n]) (kept ++ [n]) := by
  have hall : n ∉ all := fun ha => hn ((h.mem n).mpr ha)
  have hlt : (kept ++ [n]).Pairwise fun a b => (all ++ [n]).idxOf a < (all ++ [n]).idxOf b := by
    rw [List.pairwise_append]
    refine ⟨h.order.imp_of_mem fun ha hb hlt => ?_, List.pairwise_singleton .., ?_⟩
    · rwa [h.idxOf_append ha, h.idxOf_append hb]
    · intro a ha b hb
      obtain rfl := List.mem_singleton.mp hb
      rw [h.idxOf_append ha, List.idxOf_append_of_notMem hall]
      exact Nat.lt_add_right _ (List.idxOf_lt_length_iff.mpr ((h.mem a).mp ha))
  exact ⟨fun name => by simp [h.mem], hlt.imp fun hab he => absurd (he ▸ hab) (lt_irrefl _), hlt⟩

/-- **Names are kept in the order of their first appearance**, whichever come behind. -/
theorem FirstSeen.addNames {more : List String} : ∀ {all kept : List String}, FirstSeen all kept →
    FirstSeen (all ++ more) (addNames kept more) := by
  -- on the names to come: what was seen before them grows by one name in each step
  induction more with
  | nil =>
    intro all kept h
    rwa [List.append_nil]
  | cons n more ih =>
    intro all kept h
    rw [List.append_cons, Plan.addNames]
    split
    · rename_i hn
      exact ih (h.again (by simpa using hn))
    · rename_i hn
      exact ih (h.snoc (by simpa using hn))

theorem gathered_names {plan : Plan} {names : List String} :
    Gathered Uses plan names ↔ plan.filterMap indexName? = names :=
  gathered_iff fun _ _ => indexName?_eq_some_iff

theorem firstSeen_indexes (plan : Plan) : FirstSeen (plan.filterMap indexName?) (indexes plan) :=
  FirstSeen.nil.addNames

theorem indexUsed_eq (plan : Plan) : indexUsed plan =
    if indexes plan = [] then none else some (", ".intercalate (indexes plan)) := by
  unfold indexUsed
  split
  · rename_i h
    rw [if_pos h]
  · rename_i h
    rw [if_neg h]

theorem indexUsed_eq_none_iff {plan : Plan} :
    indexUsed plan = none ↔ ∀ step ∈ plan, ∀ name, ¬ Uses step name := by
  have hkept : indexes plan = [] ↔ plan.filterMap indexName? = [] := by
    simp only [List.eq_nil_iff_forall_not_mem, (firstSeen_indexes plan).mem]
  rw [← gathered_nil_iff, gathered_names, ← hkept, indexUsed_eq]
  simp

theorem indexUsed_eq_some_iff {plan : Plan} {text : String} : indexUsed plan = some text ↔
    ∃ names kept, Gathered Uses plan names ∧ FirstSeen names kept ∧ kept ≠ [] ∧
      text = ", ".intercalate kept := by
  have hseen := firstSeen_indexes plan
  rw [indexUsed_eq, Option.ite_none_left_eq_some, Option.some.injEq]
  constructor
  · rintro ⟨hne, rfl⟩
    exact ⟨_, _, gathered_names.mpr rfl, hseen, hne, rfl⟩
  · rintro ⟨names, kept, hnames, hkept, hne, rfl⟩
    rw [← gathered_names.mp hnames] at hkept
    obtain rfl := hkept.unique hseen
    exact ⟨hne, rfl⟩

/-! ## The reduction -/

/-- What a plan is reduced to: the rows that it scans and the indexes that it uses. -/
structure Reduced (plan : Plan) (rows : Option Nat) (index : Option String) : Prop where
  rows_absent : rows = none ↔ ∀ step ∈ plan, ∀ n, ¬ Reports step n
  rows_present : ∀ n, rows = some n ↔
    ∃ counts, Gathered Reports plan counts ∧ counts ≠ [] ∧ n = min (2 ^ 64 - 1) counts.sum
  index_absent : index = none ↔ ∀ step ∈ plan, ∀ name, ¬ Uses step name
  index_present : ∀ text, index = some text ↔ ∃ names kept, Gathered Uses plan names ∧
    FirstSeen names kept ∧ kept ≠ [] ∧ text = ", ".intercalate kept

theorem reduced (plan : Plan) : Reduced plan (rowsScanned plan) (indexUsed plan) where
  rows_absent := rowsScanned_eq_none_iff
  rows_present _ := rowsScanned_eq_some_iff
  index_absent := indexUsed_eq_none_iff
  index_present _ := indexUsed_eq_some_iff

/-- **The reduction of a plan.** Each answer is absent if no step has anything to give to it. Else
the one is the sum of all counts, held at the largest number of 64 bits, and the other joins the
distinct names in the order of their first appearance. The order of the steps does not matter to
the sum, and a plan in parts scans what its parts scan together. -/
theorem reduction (plan : Plan) :
    Reduced plan (rowsScanned plan) (indexUsed plan) ∧
    (∀ plan' : Plan, plan'.Perm plan → rowsScanned plan' = rowsScanned plan) ∧
    (∀ parts : List Plan, parts.flatten = plan → rowsScanned plan =
      (parts.map rowsScanned).foldr (Option.merge fun a b => min (2 ^ 64 - 1) (a + b)) none) ∧
    ∀ (v : Value) (n : Nat), v.count? = some n ↔ v.Counts n :=
  ⟨reduced plan, fun _ h => rowsScanned_perm h, fun parts h => h ▸ rowsScanned_flatten parts,
    fun _ _ => Value.count?_eq_some_iff⟩

/-- Four steps: the estimates of two of them pass the largest count, one has no estimate, and two
use one index. -/
def fourSteps : Plan :=
  [⟨[("KEY", .text "by_name"), ("rows", .int 5), ("ROWS", .null)]⟩,
   ⟨[("key", .text "PRIMARY"), ("rows", .uint 18446744073709551615)]⟩,
   ⟨[("key", .text "by_name"), ("rows", .text "7")]⟩, ⟨[("key", .null), ("rows", .decimal "2.9")]⟩]

theorem reduction_four :
    rowsScanned fourSteps.reverse = some 18446744073709551615 ∧
    indexUsed fourSteps = some "by_name, PRIMARY" ∧
    Option.merge (fun a b => min (2 ^ 64 - 1) (a + b)) (rowsScanned (fourSteps.take 1))
      (rowsScanned (fourSteps.drop 1)) = some 18446744073709551615 := by
  obtain ⟨-, hperm, hparts, -⟩ := reduction fourSteps
  have hrows : rowsScanned fourSteps = some 18446744073709551615 := by decide
  have hcut : [fourSteps.take 1, fourSteps.drop 1].flatten = fourSteps := rfl
  refine ⟨(hperm _ fourSteps.reverse_perm).trans hrows, by decide, ?_⟩
  have hmerge := hparts _ hcut
  rw [List.map_cons, List.map_cons, List.map_nil, List.foldr_cons, List.foldr_cons, List.foldr_nil,
    Option.merge_none_right] at hmerge
  exact hmerge.symm.trans hrows

end Plan

end QueryGate
