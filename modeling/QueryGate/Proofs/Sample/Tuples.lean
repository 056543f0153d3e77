import QueryGate.Proofs.Relational.Tokens
import QueryGate.Relational.Reader
import QueryGate.Sample.Row

/-!
# Reading a row back

A row is written as a list of SQL values in parentheses. Read as such a list it gives one literal
for each value, in the same order, and nothing is left over.

* `Literal`: a value as it is written; `readWritten` reads one.
* `Cell.literal`: the literal that a cell is written as.

Headline: **`readTuple_rowSql`**.
-/

namespace QueryGate.Sample

open Relational Text

/-- A number or a text as it is written, without the apostrophes. -/
inductive Literal where
  | number (digits : List Char)
  | text (s : List Char)
  deriving DecidableEq, Repr

/-- Reads a number or a text. -/
def readWritten : Reading Literal
  | [] => .error .incomplete
  | t :: rest =>
    match t.kind with
    | .number => .ok (.number t.text, rest)
    | .text s => .ok (.text s, rest)
    | _ => .error (misfit (t :: rest))

/-- What is read of a value. -/
def Cell.literal : Cell → Literal
  | .int n => .number (natText n)
  | .text s => .text s.toList
  | .amount cents => .number (amountText cents).toList
  | .date d => .text d.text.toList

/-- The token of a value. -/
def Cell.token (c : Cell) : Token :=
  match c.literal with
  | .number digits => ⟨.number, digits⟩
  | .text s => ⟨.text s, inQuotes '\'' s⟩

theorem readWritten_token (c : Cell) (ts : List Token) :
    readWritten (c.token :: ts) = .ok (c.literal, ts) := by
  cases c <;> rfl

/-! ## Tokens of a row -/

section Tokens

variable {rest : List Char}

theorem toList_natString (n : Nat) : (natString n).toList = natText n := Nat.toList_repr

theorem toList_amountText (cents : Nat) :
    (amountText cents).toList = natText (cents / 100) ++ '.' :: padded 2 (cents % 100) := by
  simp [amountText, paddedString, toList_natString]

theorem toList_quoted (s : String) : (quoted s).toList = inQuotes '\'' s.toList := by
  simp [quoted, inQuotes]

/-- A value before a comma or the closing parenthesis is one token. -/
theorem tokens_cell (c : Cell) (h : Parts rest) :
    tokens (c.sql.toList ++ rest) = c.token :: tokens rest := by
  cases c with
  | int n =>
    obtain ⟨hne, hdigits, -⟩ := digits_natText n
    have htext := numberText_digits hdigits h
    rw [Cell.sql, toList_natString]
    exact tokens_number htext (fun d hd => hdigits d (List.mem_of_mem_head? hd)) hne
  | text s =>
    rw [Cell.sql, toList_quoted]
    exact tokens_inQuotes h s.toList
  | amount cents =>
    have hwhole := (digits_natText (cents / 100)).2.1
    have hcents := (digits_padded 2 (cents % 100)).2.1
    have htext := numberText_point hwhole hcents h
    obtain ⟨d, ds, hd, hdigit⟩ := natText_eq_cons (cents / 100)
    rw [Cell.sql, Cell.token, Cell.literal, toList_amountText]
    refine tokens_number ?_ ?_ ?_
    · simpa using htext
    · simpa [hd] using hdigit
    · simp
  | date d =>
    rw [Cell.sql, toList_quoted]
    exact tokens_inQuotes h d.text.toList

theorem parts_cells (cells : List Cell) :
    Parts ((cells.flatMap fun c => ',' :: ' ' :: c.sql.toList) ++ [')']) := by
  cases cells with
  | nil => exact ⟨[], .inr rfl⟩
  | cons c cells => exact ⟨_, .inl rfl⟩

/-- The values behind the first one, as they stand in a row. -/
theorem tokens_cells (cells : List Cell) :
    tokens ((cells.flatMap fun c => ',' :: ' ' :: c.sql.toList) ++ [')']) =
      (cells.flatMap fun c => [⟨.symbol, [',']⟩, c.token]) ++ [⟨.symbol, [')']⟩] := by
  induction cells with
  | nil => exact tokens_closeParen []
  | cons c cells ih =>
    simp only [List.flatMap_cons, List.cons_append, List.append_assoc, List.nil_append]
    rw [tokens_comma, tokens_space (by decide), tokens_cell c (parts_cells cells), ih]

theorem toList_rowSql (c : Cell) (cells : List Cell) : (rowSql (c :: cells)).toList =
    '(' :: (c.sql.toList ++ ((cells.flatMap fun c => ',' :: ' ' :: c.sql.toList) ++ [')'])) := by
  have hlisted : (", ".intercalate ((c :: cells).map Cell.sql)).toList =
      c.sql.toList ++ cells.flatMap fun c => ',' :: ' ' :: c.sql.toList := by
    induction cells generalizing c with
    | nil => simp
    | cons d cells ih =>
      rw [List.map_cons, List.map_cons, String.intercalate_cons_cons, ← List.map_cons,
        String.toList_append, String.toList_append, ih]
      simp
  rw [rowSql, String.toList_append, String.toList_append, hlisted]
  simp

/-- **The tokens of a row**: one for each value, with commas between. -/
theorem tokens_rowSql (c : Cell) (cells : List Cell) : tokens (rowSql (c :: cells)).toList =
    ⟨.symbol, ['(']⟩ :: c.token :: ((cells.flatMap fun c => [⟨.symbol, [',']⟩, c.token]) ++
      [⟨.symbol, [')']⟩]) := by
  rw [toList_rowSql, tokens_openParen, tokens_cell c (parts_cells cells), tokens_cells]

end Tokens

/-! ## Reading -/

theorem readMore_cells {fuel : Nat} (c : Cell) (cells : List Cell) (sofar : List Literal)
    (h : cells.length < fuel) :
    readMore readWritten fuel sofar (c.token ::
      ((cells.flatMap fun c => [⟨.symbol, [',']⟩, c.token]) ++ [⟨.symbol, [')']⟩])) =
      .ok (sofar.reverse ++ (c :: cells).map Cell.literal, [⟨.symbol, [')']⟩]) := by
  induction cells generalizing fuel c sofar with
  | nil =>
    obtain ⟨fuel, rfl⟩ := Nat.exists_eq_add_one.mpr h
    rw [readMore, readWritten_token]
    simp [bind, Except.bind, atSymbol, Token.isSymbol]
  | cons d cells ih =>
    obtain ⟨fuel, rfl⟩ := Nat.exists_eq_add_one.mpr (Nat.lt_of_le_of_lt (Nat.zero_le _) h)
    rw [readMore, readWritten_token]
    have hmore := ih d (c.literal :: sofar) (Nat.lt_of_succ_lt_succ h)
    simpa [bind, Except.bind, atSymbol, Token.isSymbol] using hmore

/-- **A row is read back**: one literal for each value, in the same order, and nothing is left. -/
theorem readTuple_rowSql {row : Row} (h : row ≠ []) :
    readTuple readWritten (tokens (rowSql row).toList) = .ok (row.map Cell.literal, []) := by
  obtain ⟨c, cells, rfl⟩ := List.exists_cons_of_ne_nil h
  have hfuel (ts : List Token) : cells.length <
      (c.token :: ((cells.flatMap fun c => [⟨.symbol, [',']⟩, c.token]) ++ ts)).length + 1 := by
    simp [List.length_flatMap, List.map_const']
    omega
  have hlist := readMore_cells c cells [] (hfuel [⟨.symbol, [')']⟩])
  have hopen : atSymbol '(' (⟨.symbol, ['(']⟩ :: c.token ::
      ((cells.flatMap fun c => [⟨.symbol, [',']⟩, c.token]) ++ [⟨.symbol, [')']⟩])) = true := rfl
  rw [tokens_rowSql, readTuple, readSymbol, if_pos hopen]
  simp only [bind, Except.bind, List.drop_succ_cons, List.drop_zero, readList]
  rw [hlist]
  rfl

end QueryGate.Sample
