import QueryGate.Admission.Scan

/-!
# Database backends
-/

namespace QueryGate

open Text

/-- The kinds of database behind the gate. -/
inductive Backend where
  | mysql
  | sqlite
  deriving DecidableEq, Repr

namespace Backend

def name : Backend → String
  | .mysql => "mysql"
  | .sqlite => "sqlite"

/-- The backend of a name, in any case; each has a second spelling. -/
def ofName? (s : String) : Option Backend :=
  let n := String.ofList (lower s.toList)
  if n = "mysql" ∨ n = "mariadb" then some .mysql
  else if n = "sqlite" ∨ n = "sqlite3" then some .sqlite
  else none

/-- The port that the backend listens on by default, if it listens on one. -/
def defaultPort : Backend → Option Nat
  | .mysql => some 3306
  | .sqlite => none

/-- The scheme of connection strings. -/
def urlScheme : Backend → String
  | .mysql => "mysql"
  | .sqlite => "sqlite"

/-- The words that turn a statement into a question for its plan. -/
def explainLead : Backend → String
  | .mysql => "EXPLAIN"
  | .sqlite => "EXPLAIN QUERY PLAN"

/-- The statement that asks for the plan of `sql`. -/
def planProbe (b : Backend) (sql : Sql) : Sql := b.explainLead.toList ++ ' ' :: sql

end Backend

end QueryGate
