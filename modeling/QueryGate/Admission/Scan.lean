import QueryGate.Text.Digit
import QueryGate.Text.Keyword
import QueryGate.Text.Lower

/-!
# Reading a statement's text

The tests that admission applies to the text of a statement. They know nothing of comments and
string literals: a semicolon inside a literal counts as a separator, and a word inside a comment
as a word.

* `hasSecondStatement` — a semicolon with more than blanks after it.
* `hasForbidden` — one of the commands that nobody may run.
* `splitExplain` — the leading `EXPLAIN` as written, and what it explains.
* `startsSelect`, `hasLimit` — a `SELECT` statement, and one that already has a row limit.
* `tableNames` — the names behind `FROM` and `JOIN`.
-/

namespace QueryGate

open Text

/-- The text of a statement. -/
abbrev Sql := List Char

namespace Sql

/-- Some semicolon is followed by more than blanks. -/
def hasSecondStatement : Sql → Bool
  | [] => false
  | c :: cs => (c == ';' && cs.any (!isBlank ·)) || hasSecondStatement cs

/-- The commands that no caller may run. -/
def forbiddenCommands : List (List Keyword) :=
  [["drop".toList, "database".toList],
   ["drop".toList, "schema".toList],
   ["truncate".toList],
   ["grant".toList],
   ["revoke".toList],
   ["create".toList, "user".toList],
   ["drop".toList, "user".toList],
   ["alter".toList, "user".toList],
   ["shutdown".toList],
   ["load".toList, "data".toList],
   ["into".toList, "outfile".toList],
   ["into".toList, "dumpfile".toList]]

/-- A forbidden command occurs in the statement. -/
def hasForbidden (s : Sql) : Bool := forbiddenCommands.any (containsPhrase · s)

def explainWord : Keyword := "explain".toList
def selectWord : Keyword := "select".toList
def limitWord : Keyword := "limit".toList
def fromWord : Keyword := "from".toList
def joinWord : Keyword := "join".toList

/-- The keyword `EXPLAIN` at the start, as it is written, and the statement it explains. -/
def splitExplain (s : Sql) : Option (Sql × Sql) :=
  let t := trimStart s
  match stripWord? explainWord t with
  | some rest => some (t.take explainWord.length, trimStart rest)
  | none => none

/-- The statement starts with `SELECT`. -/
def startsSelect (s : Sql) : Bool := startsWord selectWord (trimStart s)

/-- The text starts with `LIMIT`, blanks and a digit. -/
def startsLimit (s : Sql) : Bool :=
  match stripKeyword? limitWord s with
  | some rest =>
    startsBlank rest &&
      match trimStart rest with
      | [] => false
      | c :: _ => isDigit c
  | none => false

/-- The statement has a row limit, at whatever level. -/
def hasLimit (s : Sql) : Bool := anyWordStart startsLimit false s

/-- `c` may stand in the name of a table: a word character or the backtick of a quoted name. -/
def isNameChar (c : Char) : Bool := isWord c || c == '\x60'

/-- The name behind `FROM` or `JOIN` at the start of the text, and what follows it. -/
def splitTable (s : Sql) : Option (Sql × Sql) :=
  match (stripWord? fromWord s).or (stripWord? joinWord s) with
  | some rest =>
    if startsBlank rest then
      let t := trimStart rest
      let name := t.takeWhile isNameChar
      if name.isEmpty then none else some (name, t.dropWhile isNameChar)
    else none
  | none => none

theorem splitTable_length_lt {s name rest : Sql} (h : splitTable s = some (name, rest)) :
    rest.length < s.length := by
  unfold splitTable at h
  split at h
  · rename_i r hr
    have hlen : s.length = 4 + r.length := by
      rcases Option.or_eq_some_iff.mp hr with h' | ⟨_, h'⟩
      · simpa [fromWord] using stripWord?_length h'
      · simpa [joinWord] using stripWord?_length h'
    split at h
    · simp only at h
      split at h
      · simp at h
      · simp only [Option.some.injEq, Prod.mk.injEq] at h
        obtain ⟨_, rfl⟩ := h
        have h1 := (List.dropWhile_sublist (l := trimStart r) isNameChar).length_le
        have h2 := trimStart_length_le r
        omega
    · simp at h
  · simp at h

/-- The names behind `FROM` and `JOIN` from left to right, as written. The search goes on behind a
name that it has found, so a keyword that stands as a name starts no reference of its own. -/
def tableNamesFrom (inWord : Bool) (s : Sql) : List Sql :=
  match s with
  | [] => []
  | c :: cs =>
    match _h : if inWord then none else splitTable (c :: cs) with
    | some (name, rest) => name :: tableNamesFrom true rest
    | none => tableNamesFrom (isWord c) cs
termination_by s.length
decreasing_by
  · split at _h
    · simp at _h
    · exact splitTable_length_lt _h
  · simp

/-- The tables that the statement names behind `FROM` and `JOIN`, unquoted and in lower case. -/
def tableNames (s : Sql) : List Sql :=
  (tableNamesFrom false s).map fun n => lower (n.filter (· != '\x60'))

/-- The statement up to the first semicolon that has only blanks behind it. -/
def dropFinalSemicolon : Sql → Sql
  | [] => []
  | c :: cs => if c == ';' && cs.all isBlank then [] else c :: dropFinalSemicolon cs

theorem splitExplain_length_lt {s keyword inner : Sql}
    (h : splitExplain s = some (keyword, inner)) : inner.length < s.length := by
  unfold splitExplain at h
  simp only at h
  split at h
  · rename_i rest hr
    simp only [Option.some.injEq, Prod.mk.injEq] at h
    obtain ⟨_, rfl⟩ := h
    have h1 := stripWord?_length hr
    have h2 := trimStart_length_le s
    have h3 := trimStart_length_le rest
    have h4 : explainWord.length = 7 := rfl
    omega
  · simp at h

end Sql

end QueryGate
