import Mathlib.Logic.Function.Basic
import QueryGate.Proofs.Sample.Runs
import QueryGate.Sample.Storing

/-!
# Statements on the sample tables

What the statements of a generation do to a database whose sample tables, as far as there are any,
were declared by a generation. Tables are created where they are missing, a table is cleared once
nothing refers to it, and rows are put into a table if they repeat no key and refer to keys that are
there.

* `AsDeclared db`: the sample tables that there are were declared as they are here.
* `Ready db`: all of them are there.
* `Holds db t rows`: what a table holds.

Headlines: `prepare_store`, `fills_store`.
-/

namespace QueryGate.Sample

open Relational (Identifier sameName)

/-! ## Names -/

theorem sameName_iff {a b : Identifier} :
    sameName a b = true ↔ a.map Text.lowerAscii = b.map Text.lowerAscii := by
  simp [sameName]

theorem sameName_refl (a : Identifier) : sameName a a = true := sameName_iff.mpr rfl

theorem sameName_symm {a b : Identifier} (h : sameName a b = true) : sameName b a = true :=
  sameName_iff.mpr (sameName_iff.mp h).symm

theorem sameName_trans {a b c : Identifier} (h : sameName a b = true) (h' : sameName b c = true) :
    sameName a c = true :=
  sameName_iff.mpr ((sameName_iff.mp h).trans (sameName_iff.mp h'))

/-- The sample tables are told apart by their names. -/
theorem Table.eq_of_sameName {t t' : Table} (h : sameName t.identifier t'.identifier = true) :
    t = t' := by
  revert h
  cases t <;> cases t' <;> decide

/-! ## The tables of a database -/

section Tables

variable {db : Relational.Database} {name : Identifier} {u v : Relational.Table}

theorem sameName_of_table? (h : db.table? name = some u) : sameName name u.name = true := by
  simpa using List.find?_some h

theorem mem_of_table? (h : db.table? name = some u) : u ∈ db.tables := List.mem_of_find?_eq_some h

theorem table_of_table? (h : db.table? name = some u) : db.table name = .ok u := by
  rw [Relational.Database.table, h]
  rfl

/-- A table is replaced wherever its name is looked up, and nowhere else. -/
theorem table?_replace (db : Relational.Database) (v : Relational.Table) (name : Identifier) :
    (db.replace v).table? name =
      (db.table? name).map fun u => if sameName u.name v.name then v else u := by
  unfold Relational.Database.table? Relational.Database.replace
  rw [List.find?_map]
  congr 2
  funext u
  rw [Bool.eq_iff_iff]
  simp only [Function.comp]
  split
  next hsame =>
    exact ⟨fun h => sameName_trans h (sameName_symm hsame), fun h => sameName_trans h hsame⟩
  next => exact Iff.rfl

theorem table?_append (db : Relational.Database) (v : Relational.Table) (name : Identifier) :
    Relational.Database.table? { db with tables := db.tables ++ [v] } name =
      (db.table? name).or (if sameName name v.name then some v else none) := by
  simp only [Relational.Database.table?, List.find?_append, List.find?_singleton]

theorem mem_replace {w : Relational.Table} (h : w ∈ (db.replace v).tables) :
    w = v ∨ w ∈ db.tables ∧ ¬ sameName w.name v.name := by
  obtain ⟨u, hu, rfl⟩ := List.mem_map.mp h
  split
  next => exact .inl rfl
  next hother => exact .inr ⟨hu, hother⟩

end Tables

/-! ## Declared tables -/

/-- The references that a sample table is declared with. -/
def Table.declared (t : Table) : List Relational.Reference := (t.stored false).references

theorem Table.parent_of_declared {t : Table} {ref : Relational.Reference} (h : ref ∈ t.declared) :
    ∃ r ∈ t.references, ref.parent = r.parent.identifier := by
  obtain ⟨r, hr, hplace⟩ := List.mem_filterMap.mp h
  obtain ⟨place, -, rfl⟩ := Option.map_eq_some_iff.mp hplace
  exact ⟨r, hr, rfl⟩

/-- The sample tables that there are have the columns and the references that they are declared
with, and no other table refers to one of them. Their rows may be any. -/
structure AsDeclared (db : Relational.Database) : Prop where
  own : ∀ (t : Table), ∀ u ∈ db.tables, sameName t.identifier u.name →
    u.columns = (t.stored false).columns ∧ u.references = t.declared
  others : ∀ u ∈ db.tables, ∀ ref ∈ u.references, ∀ t : Table, sameName ref.parent t.identifier →
    ∃ t' : Table, sameName t'.identifier u.name

/-- The sample table is there. -/
def Present (db : Relational.Database) (t : Table) : Prop := ∃ u, db.table? t.identifier = some u

/-- What the sample table holds. -/
def Holds (db : Relational.Database) (t : Table) (rows : List (List Value)) : Prop :=
  ∀ u ∈ db.tables, sameName t.identifier u.name → u.rows = rows

theorem Holds.rows {db : Relational.Database} {t : Table} {rows : List (List Value)}
    {u : Relational.Table} (h : Holds db t rows) (hu : db.table? t.identifier = some u) :
    u.rows = rows :=
  h u (mem_of_table? hu) (sameName_of_table? hu)

/-- The database has all sample tables, declared as they are here. -/
structure Ready (db : Relational.Database) : Prop where
  declared : AsDeclared db
  present : ∀ t, Present db t

section Replacing

variable {db : Relational.Database} {t : Table} {u : Relational.Table}

/-- Other rows and indexes leave a table declared as it was. -/
theorem AsDeclared.replace (h : AsDeclared db) (hu : u ∈ db.tables) (rows : List (List Value))
    (indexes : List Relational.Index) :
    AsDeclared (db.replace { u with rows, indexes }) where
  own t w hw hname := by
    rcases mem_replace hw with rfl | ⟨hw, -⟩
    · exact h.own t u hu hname
    · exact h.own t w hw hname
  others w hw ref href p hp := by
    rcases mem_replace hw with rfl | ⟨hw, -⟩
    · exact h.others u hu ref href p hp
    · exact h.others w hw ref href p hp

theorem Present.replace (h : Present db t) (v : Relational.Table) : Present (db.replace v) t := by
  obtain ⟨w, hw⟩ := h
  exact ⟨_, by rw [table?_replace, hw]; rfl⟩

/-- A table that is replaced holds what it is replaced with. -/
theorem holds_replace (hu : db.table? t.identifier = some u) (rows : List (List Value))
    (indexes : List Relational.Index) :
    Holds (db.replace { u with rows, indexes }) t rows := by
  intro w hw hname
  rcases mem_replace hw with rfl | ⟨-, hother⟩
  · rfl
  · exact absurd (sameName_trans (sameName_symm hname) (sameName_of_table? hu)) hother

/-- Other tables hold what they held. -/
theorem Holds.replace {t' : Table} {held : List (List Value)} (h : Holds db t' held)
    (hu : db.table? t.identifier = some u) (hne : t' ≠ t) (rows : List (List Value))
    (indexes : List Relational.Index) :
    Holds (db.replace { u with rows, indexes }) t' held := by
  intro w hw hname
  have hown : sameName t.identifier u.name = true := sameName_of_table? hu
  rcases mem_replace hw with rfl | ⟨hw, -⟩
  · exact absurd (Table.eq_of_sameName (sameName_trans hname (sameName_symm hown))) hne
  · exact h w hw hname

end Replacing

/-! ## Statements in order -/

theorem storeAll_append {db after : Relational.Database} {first second : List Statement}
    (h : storeAll db first = (after, none)) :
    storeAll db (first ++ second) = storeAll after second := by
  induction first generalizing db with
  | nil => rw [List.nil_append, (Prod.mk.inj h).1]
  | cons s first ih =>
    simp only [storeAll, List.cons_append] at h ⊢
    split at h
    next => exact ih h
    next => exact absurd h (by simp)

/-! ## Creating -/

section Creating

variable {db : Relational.Database} {t : Table}

/-- A table that is missing is created, and one that is there is left alone. -/
theorem create_store (h : AsDeclared db) (t : Table) (withIndexes : Bool) :
    ∃ after, (Statement.create t withIndexes).store db = .ok after ∧ AsDeclared after ∧
      Present after t ∧ ∀ t', Present db t' → Present after t' := by
  simp only [Statement.store]
  split
  next u hu => exact ⟨db, rfl, h, ⟨u, hu⟩, fun _ h => h⟩
  next hmissing =>
    refine ⟨_, rfl, ⟨fun t' u hu hname => ?_, fun u hu ref href p hp => ?_⟩, ?_, fun t' => ?_⟩
    · rcases List.mem_append.mp hu with hold | hnew
      · exact h.own t' u hold hname
      · obtain rfl := List.mem_singleton.mp hnew
        obtain rfl := Table.eq_of_sameName hname
        exact ⟨rfl, rfl⟩
    · rcases List.mem_append.mp hu with hold | hnew
      · exact h.others u hold ref href p hp
      · obtain rfl := List.mem_singleton.mp hnew
        exact ⟨t, sameName_refl _⟩
    · exact ⟨_, by rw [table?_append, hmissing, Option.none_or]; exact if_pos (sameName_refl _)⟩
    · rintro ⟨u, hu⟩
      exact ⟨u, by rw [table?_append, hu, Option.some_or]⟩

/-- An index is added to a table that is there. -/
theorem createIndex_store (h : AsDeclared db) (ht : Present db t) (i : Index) :
    ∃ after, (Statement.createIndex t i).store db = .ok after ∧ AsDeclared after ∧
      ∀ t', Present db t' → Present after t' := by
  obtain ⟨u, hu⟩ := ht
  have htable := table_of_table? hu
  simp only [Statement.store, addIndex, htable, bind, Except.bind]
  split
  next => exact ⟨db, rfl, h, fun _ h => h⟩
  next => exact ⟨_, rfl, h.replace (mem_of_table? hu) u.rows _, fun t' h => h.replace _⟩

theorem createIndexes_store (h : AsDeclared db) (ht : Present db t) (indexes : List Index) :
    ∃ after, storeAll db (indexes.map (.createIndex t)) = (after, none) ∧ AsDeclared after ∧
      ∀ t', Present db t' → Present after t' := by
  induction indexes generalizing db with
  | nil => exact ⟨db, rfl, h, fun _ h => h⟩
  | cons i indexes ih =>
    obtain ⟨next, hnext, hdeclared, hpresent⟩ := createIndex_store h ht i
    obtain ⟨after, hafter, hdeclared, hstill⟩ := ih hdeclared (hpresent t ht)
    refine ⟨after, ?_, hdeclared, fun t' h => hstill t' (hpresent t' h)⟩
    rw [List.map_cons, storeAll, hnext]
    exact hafter

theorem createStatements_store (h : AsDeclared db) (b : Backend) (t : Table) :
    ∃ after, storeAll db (createStatements b t) = (after, none) ∧ AsDeclared after ∧
      Present after t ∧ ∀ t', Present db t' → Present after t' := by
  cases b with
  | mysql =>
    obtain ⟨after, hafter, hrest⟩ := create_store h t true
    exact ⟨after, by rw [createStatements, storeAll, hafter]; rfl, hrest⟩
  | sqlite =>
    obtain ⟨next, hnext, hdeclared, ht, hpresent⟩ := create_store h t false
    obtain ⟨after, hafter, hdeclared, hstill⟩ := createIndexes_store hdeclared ht t.indexes
    refine ⟨after, ?_, hdeclared, hstill t ht, fun t' h => hstill t' (hpresent t' h)⟩
    rw [createStatements, storeAll, hnext]
    exact hafter

theorem schema_store (h : AsDeclared db) (b : Backend) :
    ∃ after, storeAll db (schema b) = (after, none) ∧ Ready after := by
  have hall (tables : List Table) : ∃ after,
      storeAll db (tables.flatMap (createStatements b)) = (after, none) ∧ AsDeclared after ∧
      ∀ t, t ∈ tables ∨ Present db t → Present after t := by
    induction tables generalizing db with
    | nil => exact ⟨db, rfl, h, fun t ht => ht.resolve_left (by simp)⟩
    | cons first tables ih =>
      obtain ⟨next, hnext, hdeclared, hfirst, hpresent⟩ := createStatements_store h b first
      obtain ⟨after, hafter, hdeclared, hstill⟩ := ih hdeclared
      refine ⟨after, ?_, hdeclared, fun t ht => hstill t ?_⟩
      · rw [List.flatMap_cons, storeAll_append hnext, hafter]
      · rcases ht with ht | ht
        · exact (List.mem_cons.mp ht).elim (fun h => .inr (h ▸ hfirst)) .inl
        · exact .inr (hpresent t ht)
  obtain ⟨after, hafter, hdeclared, hpresent⟩ := hall Table.all
  exact ⟨after, hafter, hdeclared, fun t => hpresent t (.inl (by cases t <;> decide))⟩

end Creating

/-! ## Clearing -/

section Clearing

variable {db : Relational.Database} {t : Table}

/-- References hold if the rows that could break them are gone. -/
theorem referencesHold_of_empty (h : AsDeclared db) (ht : Holds db t [])
    (hchildren : ∀ t', (∃ r ∈ t'.references, r.parent = t) → Holds db t' []) :
    db.referencesHold t.identifier = true := by
  have hempty (u : Relational.Table) (r : Relational.Reference) (hu : u.rows = []) :
      db.referenceHolds u r = true := by
    simp [Relational.Database.referenceHolds, hu]
  refine List.all_eq_true.mpr fun u hu => List.all_eq_true.mpr fun ref href => ?_
  rw [Bool.or_eq_true, Bool.not_eq_true', Bool.or_eq_false_iff]
  by_cases hown : sameName u.name t.identifier = true
  · exact .inr (hempty u ref (ht u hu (sameName_symm hown)))
  by_cases hparent : sameName ref.parent t.identifier = true
  · obtain ⟨t', hname⟩ := h.others u hu ref href t hparent
    rw [(h.own t' u hu hname).2] at href
    obtain ⟨r, hr, hrefers⟩ := Table.parent_of_declared href
    have hof : r.parent = t := Table.eq_of_sameName (hrefers ▸ hparent)
    exact .inr (hempty u ref (hchildren t' ⟨r, hr, hof⟩ u hu hname))
  · exact .inl ⟨eq_false_of_ne_true hown, eq_false_of_ne_true hparent⟩

/-- A table is cleared when the tables that refer to it are empty. -/
theorem clear_store (h : Ready db)
    (hchildren : ∀ t', (∃ r ∈ t'.references, r.parent = t) → Holds db t' []) :
    ∃ after, (Statement.clear t).store db = .ok after ∧ Ready after ∧ Holds after t [] ∧
      ∀ t', Holds db t' [] → Holds after t' [] := by
  obtain ⟨u, hu⟩ := h.present t
  have hdeclared := h.declared.replace (mem_of_table? hu) [] u.indexes
  have hcleared := holds_replace hu [] u.indexes
  have hstill (t' : Table) (hempty : Holds db t' []) :
      Holds (db.replace { u with rows := [] }) t' [] := by
    by_cases heq : t' = t
    · exact heq ▸ hcleared
    · exact hempty.replace hu heq [] u.indexes
  have hhold := referencesHold_of_empty hdeclared hcleared fun t' h => hstill t' (hchildren t' h)
  refine ⟨db.replace { u with rows := [] }, ?_, ⟨hdeclared, fun t' => (h.present t').replace _⟩,
    hcleared, hstill⟩
  have htable := table_of_table? hu
  simp [Statement.store, Relational.Database.execute, Relational.Database.check, htable, bind,
    Except.bind, Except.map, Relational.Database.ifReferencesHold, hhold]

/-- A table stands in the list behind every table that refers to it. -/
def ChildrenFirst : (before tables : List Table) → Prop
  | _, [] => True
  | before, t :: tables =>
    (∀ t', (∃ r ∈ t'.references, r.parent = t) → t' ∈ before) ∧ ChildrenFirst (t :: before) tables

theorem childrenFirst_reverse : ChildrenFirst [] Table.all.reverse := by
  refine ⟨?_, ?_, ?_, ?_, trivial⟩ <;> intro t' <;> cases t' <;> decide

/-- Tables are cleared in an order that has children first. -/
theorem clears_store {tables before : List Table} (h : Ready db)
    (horder : ChildrenFirst before tables) (hbefore : ∀ t ∈ before, Holds db t []) :
    ∃ after, storeAll db (tables.map .clear) = (after, none) ∧ Ready after ∧
      ∀ t, t ∈ before ∨ t ∈ tables → Holds after t [] := by
  induction tables generalizing db before with
  | nil => exact ⟨db, rfl, h, fun t ht => hbefore t (ht.resolve_right (by simp))⟩
  | cons t tables ih =>
    obtain ⟨hchildren, horder⟩ := horder
    obtain ⟨next, hnext, hready, hcleared, hstill⟩ :=
      clear_store h fun t' hchild => hbefore t' (hchildren t' hchild)
    obtain ⟨after, hafter, hready, hempty⟩ := ih hready horder (by
      rintro t' (_ | ⟨_, ht'⟩)
      · exact hcleared
      · exact hstill t' (hbefore t' ht'))
    refine ⟨after, ?_, hready, fun t' ht' => hempty t' ?_⟩
    · rw [List.map_cons, storeAll, hnext]
      exact hafter
    · rcases ht' with ht' | ht'
      · exact .inl (List.mem_cons_of_mem t ht')
      · exact (List.mem_cons.mp ht').imp (fun heq : t' = t => heq ▸ List.mem_cons_self) id

end Clearing

/-- **Preparing the tables.** Behind it all of them are there, and empty. -/
theorem prepare_store {db : Relational.Database} (h : AsDeclared db) (b : Backend) :
    ∃ after, storeAll db ((preparation b).filterMap Step.sent?) = (after, none) ∧ Ready after ∧
      ∀ t, Holds after t [] := by
  obtain ⟨next, hnext, hready⟩ := schema_store h b
  obtain ⟨after, hafter, hready, hempty⟩ := clears_store hready childrenFirst_reverse (by simp)
  refine ⟨after, ?_, hready, fun t => hempty t (.inr (by cases t <;> decide))⟩
  rw [preparation_sent, storeAll_append hnext, hafter]

/-! ## Putting rows into a table -/

section Inserting

variable {db : Relational.Database} {t : Table} {contents : Table → List (List Value)}

theorem repeats_eq_false_iff {known : Std.HashSet Int64} {keys : List Int64} :
    repeats known keys = false ↔ keys.Nodup ∧ ∀ k ∈ keys, known.contains k = false := by
  induction keys generalizing known with
  | nil => simp [repeats]
  | cons k keys ih =>
    simp only [repeats, Bool.or_eq_false_iff, ih, Std.HashSet.contains_insert, List.nodup_cons,
      List.mem_cons, forall_eq_or_imp, beq_eq_false_iff_ne]
    constructor
    · rintro ⟨hfirst, hnodup, hothers⟩
      exact ⟨⟨fun hk => (hothers k hk).1 rfl, hnodup⟩, hfirst, fun k' hk' => (hothers k' hk').2⟩
    · rintro ⟨⟨hout, hnodup⟩, hfirst, hothers⟩
      exact ⟨hfirst, hnodup, fun k' hk' => ⟨fun heq => hout (heq ▸ hk'), hothers k' hk'⟩⟩

/-- The keys of a table are the integers that its rows begin with. -/
theorem contains_keysOf {u : Relational.Table} {k : Int64} :
    (keysOf u).contains k = true ↔ k ∈ integersAt 0 u.rows := by
  rw [keysOf, Std.HashSet.contains_ofList, List.contains_iff_mem]

theorem integersAt_append (place : Nat) (rows more : List (List Value)) :
    integersAt place (rows ++ more) = integersAt place rows ++ integersAt place more :=
  List.filterMap_append

/-- The database has all sample tables, and what they hold. -/
structure Holding (db : Relational.Database) (contents : Table → List (List Value)) : Prop where
  ready : Ready db
  holds : ∀ t, Holds db t (contents t)

/-- The rows may be put into the table: they repeat no key, and refer to keys that are there. -/
structure Fits (contents : Table → List (List Value)) (t : Table) (rows : List (List Value)) :
    Prop where
  keys : (integersAt 0 (contents t ++ rows)).Nodup
  references : ∀ ref ∈ t.declared, ∀ p : Table, ref.parent = p.identifier →
    ∀ k ∈ integersAt ref.place rows, k ∈ integersAt 0 (contents p)

/-- The contents with further rows in one table. -/
def filled (contents : Table → List (List Value)) (t : Table) (rows : List (List Value)) :
    Table → List (List Value) :=
  Function.update contents t (contents t ++ rows)

theorem insert_store (h : Holding db contents) {rows : List Row}
    (hfits : Fits contents t (rows.map storedRow)) :
    ∃ after, (Statement.insert t rows).store db = .ok after ∧
      Holding after (filled contents t (rows.map storedRow)) := by
  obtain ⟨u, hu⟩ := h.ready.present t
  have htable := table_of_table? hu
  have hrows := (h.holds t).rows hu
  have hreferences := (h.ready.declared.own t u (mem_of_table? hu) (sameName_of_table? hu)).2
  have hkeys : repeats (keysOf u) (integersAt 0 (rows.map storedRow)) = false := by
    have hnodup := hfits.keys
    rw [integersAt_append, List.nodup_append] at hnodup
    obtain ⟨-, hnew, hdisjoint⟩ := hnodup
    refine repeats_eq_false_iff.mpr ⟨hnew, fun k hk => eq_false_of_ne_true fun hold => ?_⟩
    rw [contains_keysOf, hrows] at hold
    exact hdisjoint k hold k hk rfl
  have hrefers : u.references.all (refersToRows db (rows.map storedRow)) = true := by
    rw [hreferences, List.all_eq_true]
    intro ref href
    obtain ⟨r, -, hparent⟩ := Table.parent_of_declared href
    obtain ⟨v, hv⟩ := h.ready.present r.parent
    have hvrows := (h.holds r.parent).rows hv
    rw [refersToRows, hparent, hv, List.all_eq_true]
    intro k hk
    rw [contains_keysOf, hvrows]
    exact hfits.references ref href r.parent hparent k hk
  refine ⟨db.replace { u with rows := u.rows ++ rows.map storedRow }, ?_, ⟨?_, fun t' => ?_⟩,
    fun t' => ?_⟩
  · simp [Statement.store, insertRows, htable, bind, Except.bind, hkeys, hrefers]
  · exact h.ready.declared.replace (mem_of_table? hu) _ u.indexes
  · exact (h.ready.present t').replace _
  · by_cases heq : t' = t
    · subst heq
      rw [filled, Function.update_self, ← hrows]
      exact holds_replace hu _ u.indexes
    · rw [filled, Function.update_of_ne heq]
      exact (h.holds t').replace hu heq _ u.indexes

theorem Fits.first {rows more : List (List Value)} (h : Fits contents t (rows ++ more)) :
    Fits contents t rows where
  keys := by
    have hkeys := h.keys
    rw [← List.append_assoc, integersAt_append] at hkeys
    exact (List.nodup_append.mp hkeys).1
  references ref href p hp k hk :=
    h.references ref href p hp k (by rw [integersAt_append]; exact List.mem_append_left _ hk)

theorem Fits.rest {rows more : List (List Value)} (h : Fits contents t (rows ++ more)) :
    Fits (filled contents t rows) t more where
  keys := by rw [filled, Function.update_self, List.append_assoc]; exact h.keys
  references ref href p hp k hk := by
    have hold := h.references ref href p hp k
      (by rw [integersAt_append]; exact List.mem_append_right _ hk)
    by_cases heq : p = t
    · subst heq
      rw [filled, Function.update_self, integersAt_append]
      exact List.mem_append_left _ hold
    · rwa [filled, Function.update_of_ne heq]

theorem filled_filled (rows more : List (List Value)) :
    filled (filled contents t rows) t more = filled contents t (rows ++ more) := by
  simp [filled, List.append_assoc]

/-- **Filling a table.** Rows that fit are put into it, batch by batch. -/
theorem fills_store {most low high : Nat} {steps : List Step} {rows : List Row}
    (hfills : Fills t most low steps rows high) (h : Holding db contents)
    (hfits : Fits contents t (rows.map storedRow)) :
    ∃ after, storeAll db (steps.filterMap Step.sent?) = (after, none) ∧
      Holding after (filled contents t (rows.map storedRow)) := by
  induction hfills generalizing db contents with
  | nothing => exact ⟨db, rfl, by simpa [filled] using h⟩
  | batch task _ _ _ _ ih =>
    rw [List.map_append] at hfits ⊢
    obtain ⟨next, hnext, hholding⟩ := insert_store h hfits.first
    obtain ⟨after, hafter, hholding⟩ := ih hholding hfits.rest
    rw [filled_filled] at hholding
    refine ⟨after, ?_, hholding⟩
    simp only [List.filterMap_cons, Step.sent?, storeAll, hnext]
    exact hafter

end Inserting

end QueryGate.Sample
