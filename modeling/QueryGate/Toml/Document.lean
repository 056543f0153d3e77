import QueryGate.Toml.Scalar

/-!
# Documents of a settings file

A TOML document is read line by line into a tree. A table remembers how it came about, because that
decides who may still add to it:

* a table with a header of its own is closed to other headers and to dotted keys;
* a table that only the header of a table inside it names may get its own header once;
* a table made by a dotted key grows by dotted keys of the same table.

A table written in braces is a value, and closed.
-/

namespace QueryGate.Toml

/-- How a table came about. -/
inductive Origin where
  | header
  | implied
  | dotted
  deriving DecidableEq, Repr

/-- What a key of an open table holds. -/
inductive Item where
  | value (v : Value)
  | table (origin : Origin) (fields : List (String × Item))
  /-- An array of tables, each with its fields; the last is the current one. -/
  | tables (items : List (List (String × Item)))

/-- Fields of an open table, in order. -/
abbrev Fields := List (String × Item)

namespace Fields

def find? (fs : Fields) (key : String) : Option Item :=
  (List.find? (·.1 == key) fs).map (·.2)

/-- The fields with the item of a key put in place of the old one, or behind the others. -/
def set (fs : Fields) (key : String) (item : Item) : Fields :=
  match fs with
  | [] => [(key, item)]
  | f :: rest => if f.1 == key then (key, item) :: rest else f :: set rest key item

/-- Changes the last of the fields of an array of tables. -/
def onLast (f : Fields → Option Fields) : List Fields → Option (List Fields)
  | [] => none
  | [fs] => (f fs).map ([·])
  | fs :: rest => (onLast f rest).map (fs :: ·)

/-- Changes the table that the keys of a header lead to, making those that are missing. -/
def underHeader (f : Fields → Option Fields) : List String → Fields → Option Fields
  | [], fs => f fs
  | key :: keys, fs =>
    match fs.find? key with
    | none => (underHeader f keys []).map fun sub => fs.set key (.table .implied sub)
    | some (.table origin sub) =>
      (underHeader f keys sub).map fun sub => fs.set key (.table origin sub)
    | some (.tables items) =>
      (onLast (underHeader f keys) items).map fun items => fs.set key (.tables items)
    | some (.value _) => none

/-- Puts a value where a dotted key leads. The table that takes it must have been made by dotted
keys, and no table on the way may have a header. `own` tells that the path is still empty. -/
def putDotted (own isDotted : Bool) : List String → String → Value → Fields → Option Fields
  | [], key, v, fs =>
    if isDotted == own || (fs.find? key).isSome then none else some (fs.set key (.value v))
  | k :: ks, key, v, fs =>
    match fs.find? k with
    | none => (putDotted false true ks key v []).map fun sub => fs.set k (.table .dotted sub)
    | some (.table .header _) => none
    | some (.table origin sub) =>
      (putDotted false (origin == .dotted) ks key v sub).map fun sub =>
        fs.set k (.table origin sub)
    | some (.tables items) =>
      (onLast (putDotted false false ks key v) items).map fun items => fs.set k (.tables items)
    | some (.value _) => none

/-- Opens the table of a header. -/
def openTable (key : String) (fs : Fields) : Option Fields :=
  match fs.find? key with
  | none => some (fs.set key (.table .header []))
  | some (.table .implied sub) => some (fs.set key (.table .header sub))
  | some _ => none

/-- Opens one more table of an array of tables. -/
def openElement (key : String) (fs : Fields) : Option Fields :=
  match fs.find? key with
  | none => some (fs.set key (.tables [[]]))
  | some (.tables items) => some (fs.set key (.tables (items ++ [[]])))
  | some _ => none

end Fields

/-! ### Closing a tree -/

mutual

/-- The value of an item. -/
def Item.close : Item → Value
  | .value v => v
  | .table _ fields => .table (closeFields fields)
  | .tables items => .arr (closeTables items)

def closeFields : List (String × Item) → List (String × Value)
  | [] => []
  | (k, i) :: rest => (k, i.close) :: closeFields rest

def closeTables : List (List (String × Item)) → List Value
  | [] => []
  | fs :: rest => .table (closeFields fs) :: closeTables rest

end

/-! ### Values with parts -/

/-- The last key of a path and those before it. -/
def splitLast : List String → Option (List String × String)
  | [] => none
  | [k] => some ([], k)
  | k :: ks => (splitLast ks).map fun (init, last) => (k :: init, last)

/-- Puts the value of a key, dotted or not, into a table. -/
def assign (keys : List String) (v : Value) (fs : Fields) : Option Fields :=
  (splitLast keys).bind fun (path, key) => fs.putDotted path.isEmpty false path key v

mutual

/-- A value, nested at most as deep as a document may be. `depth` counts what is around it. -/
def value? (fuel depth : Nat) (cs : List Char) : Option (Value × List Char) :=
  match fuel with
  | 0 => none
  | fuel + 1 =>
    match cs with
    | '[' :: rest =>
      if maxDepth ≤ depth + 1 then none
      else (items? fuel (depth + 1) rest).map fun (vs, rest) => (.arr vs, rest)
    | '\x7b' :: rest =>
      if maxDepth ≤ depth + 1 then none
      else
        match skipSpace rest with
        | '\x7d' :: rest => some (.table [], rest)
        | rest =>
          (pairs? fuel (depth + 1) [] rest).map fun (fs, rest) => (.table (closeFields fs), rest)
    | _ => scalar? cs

/-- The elements of an array up to its closing bracket. -/
def items? (fuel depth : Nat) (cs : List Char) : Option (List Value × List Char) :=
  match fuel with
  | 0 => none
  | fuel + 1 =>
    (skipLines (cs.length + 1) cs).bind fun cs =>
      match cs with
      | ']' :: rest => some ([], rest)
      | _ =>
        (value? fuel depth cs).bind fun (v, rest) =>
          (skipLines (rest.length + 1) rest).bind fun rest =>
            match rest with
            | ',' :: rest => (items? fuel depth rest).map fun (vs, rest) => (v :: vs, rest)
            | ']' :: rest => some ([v], rest)
            | _ => none

/-- The keys and values of a table in braces up to the closing brace. -/
def pairs? (fuel depth : Nat) (fs : Fields) (cs : List Char) : Option (Fields × List Char) :=
  match fuel with
  | 0 => none
  | fuel + 1 =>
    (key? cs).bind fun (keys, rest) =>
      (expect? '=' rest).bind fun rest =>
        (value? fuel depth (skipSpace rest)).bind fun (v, rest) =>
          (assign keys v fs).bind fun fs =>
            match skipSpace rest with
            | ',' :: rest => pairs? fuel depth fs rest
            | '\x7d' :: rest => some (fs, rest)
            | _ => none

end

/-! ### Lines -/

/-- The tree so far and the header that the lines stand under. -/
structure Draft where
  root : Fields := []
  header : List String := []

/-- The draft behind a header line; the text starts behind its bracket. -/
def headerLine? (d : Draft) (cs : List Char) : Option (Draft × List Char) :=
  match cs with
  | '[' :: cs => do
    let (keys, rest) ← key? cs
    let rest ← (expect? ']' rest).bind (expect? ']')
    let rest ← endLine? rest
    let (path, key) ← splitLast keys
    let root ← d.root.underHeader (Fields.openElement key) path
    return (⟨root, keys⟩, rest)
  | _ => do
    let (keys, rest) ← key? cs
    let rest ← (expect? ']' rest).bind endLine?
    let (path, key) ← splitLast keys
    let root ← d.root.underHeader (Fields.openTable key) path
    return (⟨root, keys⟩, rest)

/-- The draft behind a line with a key and its value. -/
def assignLine? (d : Draft) (cs : List Char) : Option (Draft × List Char) := do
  let (keys, rest) ← key? cs
  let rest ← expect? '=' rest
  let (v, rest) ← value? (3 * rest.length + 10) 0 (skipSpace rest)
  let rest ← endLine? rest
  let root ← d.root.underHeader (assign keys v) d.header
  return ({ d with root }, rest)

/-- The draft behind all lines. -/
def lines? : Nat → Draft → List Char → Option Draft
  | 0, _, _ => none
  | fuel + 1, d, cs =>
    match skipSpace cs with
    | [] => some d
    | '#' :: rest =>
      match rest.dropWhile isPlain with
      | [] => some d
      | rest => (newline? rest).bind (lines? fuel d)
    | '[' :: rest => (headerLine? d rest).bind fun (d, rest) => lines? fuel d rest
    | c :: rest =>
      match newline? (c :: rest) with
      | some rest => lines? fuel d rest
      | none => (assignLine? d (c :: rest)).bind fun (d, rest) => lines? fuel d rest

/-- The fields of a document, or nothing when the text is none. A byte order mark is skipped. -/
def read? (text : List Char) : Option (List (String × Value)) :=
  let cs := match text with
    | '\uFEFF' :: rest => rest
    | _ => text
  (lines? (cs.length + 1) {} cs).map fun d => closeFields d.root

end QueryGate.Toml
