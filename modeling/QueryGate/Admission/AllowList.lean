import QueryGate.Text.Blank
import QueryGate.Text.Lower

/-!
# The allow-list of tables

The tables that a standard caller may read. Names are kept trimmed and in lower case, each once;
a lookup compares with the name as it is given.
-/

namespace QueryGate

open Text

/-- Table names in lower case, without repetition. -/
structure AllowList where
  tables : List (List Char)
  nodup : tables.Nodup

namespace AllowList

/-- The names without repetitions, the last of equal ones kept. -/
def distinct : List (List Char) → List (List Char)
  | [] => []
  | t :: ts => if t ∈ distinct ts then distinct ts else t :: distinct ts

theorem mem_distinct {t : List Char} {ts : List (List Char)} : t ∈ distinct ts ↔ t ∈ ts := by
  induction ts with
  | nil => simp [distinct]
  | cons u us ih =>
    simp only [distinct]
    split
    · rename_i h
      rw [ih, List.mem_cons]
      refine ⟨Or.inr, fun h' => ?_⟩
      rcases h' with rfl | h'
      · exact ih.mp (by simp_all)
      · exact h'
    · simp [ih]

theorem nodup_distinct (ts : List (List Char)) : (distinct ts).Nodup := by
  induction ts with
  | nil => simp [distinct]
  | cons u us ih =>
    simp only [distinct]
    split
    · exact ih
    · exact List.nodup_cons.mpr ⟨by assumption, ih⟩

/-- The allow-list of the given names. A name of blanks only names no table. -/
def ofNames (names : List (List Char)) : AllowList where
  tables := distinct ((names.map fun n => lower (trim n)).filter (!·.isEmpty))
  nodup := nodup_distinct _

/-- The table, given in lower case, may be read. -/
def contains (a : AllowList) (table : List Char) : Bool := a.tables.contains table

def size (a : AllowList) : Nat := a.tables.length

def isEmpty (a : AllowList) : Bool := a.tables.isEmpty

/-- The sample tables. -/
def sampleTables : List String :=
  ["sample_customers", "sample_products", "sample_orders", "sample_order_items"]

/-- The allow-list of the sample tables. -/
def sample : AllowList := ofNames (sampleTables.map String.toList)

theorem contains_iff (a : AllowList) (t : List Char) : a.contains t = true ↔ t ∈ a.tables := by
  simp [contains]

theorem mem_ofNames {names : List (List Char)} {t : List Char} :
    t ∈ (ofNames names).tables ↔ t ≠ [] ∧ ∃ n ∈ names, lower (trim n) = t := by
  simp only [ofNames, mem_distinct, List.mem_filter, List.mem_map]
  constructor
  · rintro ⟨⟨n, hn, rfl⟩, h⟩
    exact ⟨by simpa using h, n, hn, rfl⟩
  · rintro ⟨h, n, hn, rfl⟩
    exact ⟨⟨n, hn, rfl⟩, by simpa using h⟩

end AllowList

end QueryGate
