import QueryGate.Settings.Basic
import QueryGate.Toml.Document

/-!
# The settings file

Settings are read from the tables `sandbox`, `database` and `history` of a TOML document. What the
file does not set keeps its default, and what the program does not know is ignored.

A group of settings may also be written as an array that gives its settings in order, and a choice
between words as a table whose only key is the word and whose value is empty.
-/

namespace QueryGate.Settings

open Toml

/-- A value of the wrong kind or out of range gives nothing. -/
abbrev Read (α : Type) := Value → Option α

def nat (bound : Nat) : Read Nat
  | .int i => if 0 ≤ i ∧ i < bound then some i.toNat else none
  | _ => none

def string : Read String
  | .str s => some s
  | _ => none

def bool : Read Bool
  | .bool b => some b
  | _ => none

def list {α : Type} (read : Read α) : Read (List α)
  | .arr items => items.mapM read
  | _ => none

/-- The backend of a word. -/
def backendWord (s : String) : Option Backend :=
  if s = "mysql" then some .mysql else if s = "sqlite" then some .sqlite else none

def backend : Read Backend
  | .str s => backendWord s
  | .table [(s, .table [])] => backendWord s
  | .table [(s, .arr [])] => backendWord s
  | _ => none

/-- The settings of one group, looked up by place or by name. -/
structure Group where
  get : Nat → String → Option Value

/-- The group that a value gives. A date has no setting of any group. -/
def group? : Value → Option Group
  | .table fields => some ⟨fun _ name => lookup? fields name⟩
  | .arr items => some ⟨fun place _ => items[place]?⟩
  | .date => some ⟨fun _ _ => none⟩
  | _ => none

/-- A setting of a group, or its default when it is not set. -/
def Group.field {α : Type} (g : Group) (place : Nat) (name : String) (read : Read α) (default : α) :
    Option α :=
  match g.get place name with
  | some v => read v
  | none => some default

/-- A setting that may be absent. -/
def Group.optional {α : Type} (g : Group) (place : Nat) (name : String) (read : Read α) :
    Option (Option α) :=
  g.field place name (fun v => (read v).map some) none

def readLimits (g : Group) : Option Limits := do
  let d : Limits := {}
  return {
    maxRows := ← g.field 0 "max_rows" (nat bound32) d.maxRows
    timeoutSecs := ← g.field 1 "timeout_secs" (nat bound64) d.timeoutSecs
    workers := ← g.field 2 "workers" (nat bound64) d.workers
    allowedTables := ← g.field 3 "allowed_tables" (list string) d.allowedTables
    maxCompare := ← g.field 4 "max_compare" (nat bound64) d.maxCompare }

def readConnection (g : Group) : Option Connection := do
  let d : Connection := {}
  let text : Read (List Char) := fun v => (string v).map String.toList
  return {
    backend := ← g.field 0 "backend" backend d.backend
    host := ← g.optional 1 "host" text
    port := ← g.optional 2 "port" (nat bound16)
    database := ← g.optional 3 "database" text
    user := ← g.optional 4 "user" text
    password := ← g.optional 5 "password" text
    poolSize := ← g.field 6 "pool_size" (nat bound32) d.poolSize }

def readHistory (g : Group) : Option HistorySettings := do
  let d : HistorySettings := {}
  return {
    enabled := ← g.field 0 "enabled" bool d.enabled
    path := ← g.optional 1 "path" string
    keepPerUser := ← g.field 2 "keep_per_user" (nat bound32) d.keepPerUser }

/-- A group of the document, or its defaults when it is not there. -/
def section? {α : Type} (fields : List (String × Value)) (name : String) (read : Group → Option α)
    (default : α) : Option α :=
  match lookup? fields name with
  | some v => (group? v).bind read
  | none => some default

/-- The settings of a file, or nothing when its text is no document or a setting does not fit. -/
def ofText? (text : List Char) : Option Settings := do
  let fields ← Toml.read? text
  return {
    limits := ← section? fields "sandbox" readLimits {}
    database := ← section? fields "database" readConnection {}
    history := ← section? fields "history" readHistory {} }

end QueryGate.Settings
