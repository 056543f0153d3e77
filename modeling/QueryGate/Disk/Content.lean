import QueryGate.Disk.Basic
import QueryGate.Relational.Database

/-!
# Files with databases

A file holds a text, other bytes, or a database. A database is opened by the name of its file; one
that is missing or empty becomes an empty database.

While a database is in use, changes to it stand in a log beside its file, and who goes away without
closing it leaves the log there. After that the database is read from the log, whatever the file
holds by then; the log of a file that is missing or empty is dropped. The content of a file that is
in use is what its readers see, log included.
-/

namespace QueryGate

/-- What a file holds. -/
inductive Content where
  | text (s : List Char)
  /-- Bytes that are no text. -/
  | bytes (bs : List UInt8)
  | database (db : Relational.Database)
  deriving DecidableEq, Repr

/-- Why no database can be opened at a name. -/
inductive OpenFault where
  | cannotOpen
  | notDatabase
  /-- The log of an empty file cannot be dropped. -/
  | cannotDropLog
  deriving DecidableEq, Repr

/-- The wording of a fault. -/
def OpenFault.message : OpenFault → String
  | .cannotOpen => "error returned from database: (code: 14) unable to open database file"
  | .notDatabase => "error returned from database: (code: 26) file is not a database"
  | .cannotDropLog => "error returned from database: (code: 2570) disk I/O error"

/-- The path names no file: a database opened by it is empty and gone when it is closed. -/
def Path.isTransient (p : Path) : Bool := p.isEmpty || p == ":memory:".toList

namespace Disk

/-- The way to the log of the database at `way`. -/
def logWay (way : List FileName) : List FileName :=
  way.dropLast ++ [way.getLastD [] ++ "-wal".toList]

/-- No log was left beside the file. -/
def Unlogged {α : Type} (d : Disk α) (way : List FileName) : Prop := d.stands? (logWay way) = none

instance {α : Type} (d : Disk α) (way : List FileName) : Decidable (d.Unlogged way) :=
  inferInstanceAs (Decidable (_ = _))

/-- The database in the file of this number. -/
def database? (d : Disk Content) (number : Nat) : Option Relational.Database :=
  match d.content? number with
  | some (.database db) => some db
  | _ => none

/-- Changes the database in the file of this number. -/
def updateDatabase (d : Disk Content) (number : Nat) (db : Relational.Database) : Disk Content :=
  d.write number (.database db)

/-- Opens the file of this number as a database, without a log. -/
def claimDatabase (d : Disk Content) (number : Nat) : Except OpenFault Nat × Disk Content :=
  match d.content? number with
  | some (.database _) => (.ok number, d)
  | some (.text []) => (.ok number, d.updateDatabase number {})
  | _ => (.error .notDatabase, d)

/-- Opens the database that a way leads to: the number of the file that it is read from. A missing
file is made in any case. -/
def openDatabase (d : Disk Content) (way : List FileName) : Except OpenFault Nat × Disk Content :=
  match d.openFile way (.text []) with
  | .error _ => (.error .cannotOpen, d)
  | .ok (number, d') =>
    let empty := d'.content? number = some (.text [])
    match d'.node (logWay way) with
    | .ok .directory => (.error (if empty then .cannotDropLog else .cannotOpen), d')
    | .ok (.file log) =>
      if empty then (d'.remove (logWay way)).claimDatabase number
      else if (d'.database? log).isSome then (.ok log, d')
      else d'.claimDatabase number
    | _ => d'.claimDatabase number

/-- Leaves the database in the file of this number in a log beside `way`: the number of the file
that it is read from then. -/
def leaveLog (d : Disk Content) (way : List FileName) (number : Nat) : Nat × Disk Content :=
  match d.database? number, d.openFile (logWay way) (.text []) with
  | some db, .ok (log, d') => (log, d'.updateDatabase log db)
  | _, _ => (number, d)

end Disk

end QueryGate
