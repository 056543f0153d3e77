import QueryGate.Admission.AllowList
import QueryGate.Admission.Privilege
import QueryGate.Admission.Scan

/-!
# Admission of statements

A gate decides whether a caller may run a statement, and gives an admitted `SELECT` a row limit if
it has none. The rules apply in a fixed order and the first that fails decides:

1. the statement is not empty;
2. it is one statement;
3. it has no forbidden command;
4. behind a leading `EXPLAIN` the rules apply to the explained statement;
5. a standard caller may only `SELECT`, and only from allow-listed tables;
6. a `SELECT` without a limit gets the gate's row limit.
-/

namespace QueryGate

open Text

/-- Why a statement is refused. -/
inductive Refusal where
  | empty
  | manyStatements
  | forbiddenCommand
  | notSelect
  | tableDenied (table : List Char)
  deriving DecidableEq, Repr

/-- The wording of a refusal. -/
def Refusal.message : Refusal → String
  | .empty => "SQL cannot be empty"
  | .manyStatements => "Multiple statements are not allowed"
  | .forbiddenCommand => "Forbidden SQL command detected"
  | .notSelect => "Only SELECT statements are allowed for non-admin users"
  | .tableDenied table =>
    "Access denied to table: " ++ String.ofList table ++ ". Only sample_* tables are allowed."

/-- The outcome of admission. An admitted statement is the one to run. -/
inductive Verdict where
  | accepted (sql : Sql)
  | rejected (reason : Refusal)
  deriving DecidableEq, Repr

/-- The rules of admission that a deployment chooses. -/
structure Gate where
  /-- The row limit put on a `SELECT` that has none. -/
  maxRows : Nat := 1000
  /-- The tables that a standard caller may read. -/
  allowed : AllowList := .sample

namespace Gate

/-- The limit clause that the gate appends. -/
def limitClause (g : Gate) : List Char := " LIMIT ".toList ++ Nat.toDigits 10 g.maxRows

/-- The statement with a row limit, if it is a `SELECT`. -/
def withLimit (g : Gate) (s : Sql) : Sql :=
  if s.hasLimit then s
  else if s.startsSelect then trimEnd s.dropFinalSemicolon ++ g.limitClause
  else s

/-- The first table of the statement that is not allow-listed. -/
def deniedTable? (g : Gate) (s : Sql) : Option (List Char) :=
  s.tableNames.find? (!g.allowed.contains ·)

/-- The rule for a statement that explains nothing: what the caller may read, and the limit. -/
def judgePlain (g : Gate) (p : Privilege) (s : Sql) : Verdict :=
  if p.isAdmin then .accepted (g.withLimit s)
  else if s.startsSelect then
    match g.deniedTable? s with
    | some table => .rejected (.tableDenied table)
    | none => .accepted (g.withLimit s)
  else .rejected .notSelect

/-- Puts the keyword of an explained statement back in front of it. -/
def explained (keyword : Sql) : Verdict → Verdict
  | .accepted s => .accepted (keyword ++ ' ' :: s)
  | .rejected r => .rejected r

/-- Decides whether a caller with privilege `p` may run the statement, and in which form. -/
def judge (g : Gate) (p : Privilege) (sql : Sql) : Verdict :=
  let s : Sql := trim sql
  if s.isEmpty then .rejected .empty
  else if s.hasSecondStatement then .rejected .manyStatements
  else if s.hasForbidden then .rejected .forbiddenCommand
  else
    match _h : s.splitExplain with
    | some (keyword, inner) => explained keyword (g.judge p inner)
    | none => g.judgePlain p s
termination_by sql.length
decreasing_by
  exact Nat.lt_of_lt_of_le (Sql.splitExplain_length_lt _h) (trim_length_le sql)

end Gate

end QueryGate
