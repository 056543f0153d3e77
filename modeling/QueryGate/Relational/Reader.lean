import QueryGate.Decimal.Reader
import QueryGate.Power
import QueryGate.Relational.Statement
import QueryGate.Relational.Token

/-!
# Reading statements

A statement is read from its tokens. Keywords may be in any case. What does not fit is reported
with the first token that is out of place.
-/

namespace QueryGate.Relational

open Text

/-- Why a text is no statement. -/
inductive SyntaxFault where
  /-- The text ends too early. -/
  | incomplete
  | misplaced (token : List Char)
  | unrecognized (token : List Char)
  deriving DecidableEq, Repr

/-- The wording of a fault. -/
def SyntaxFault.message : SyntaxFault → String
  | .incomplete => "incomplete input"
  | .misplaced token => "near \"" ++ String.ofList token ++ "\": syntax error"
  | .unrecognized token => "unrecognized token: \"" ++ String.ofList token ++ "\""

/-- Reads something from the first tokens and leaves the others. -/
abbrev Reading (α : Type) := List Token → Except SyntaxFault (α × List Token)

/-- The fault of the first token. -/
def misfit (ts : List Token) : SyntaxFault :=
  match ts with
  | [] => .incomplete
  | t :: _ => if t.kind = .bad then .unrecognized t.text else .misplaced t.text

/-- The token is this keyword. -/
def Token.isKeyword (t : Token) (keyword : String) : Bool :=
  t.kind == .word && t.text.map lowerAscii == keyword.toList

/-- The token is this symbol. -/
def Token.isSymbol (t : Token) (c : Char) : Bool := t.kind == .symbol && t.text == [c]

/-- The first token is this keyword. -/
def atKeyword (keyword : String) (ts : List Token) : Bool :=
  match ts with
  | t :: _ => t.isKeyword keyword
  | [] => false

/-- The first token is this symbol. -/
def atSymbol (c : Char) (ts : List Token) : Bool :=
  match ts with
  | t :: _ => t.isSymbol c
  | [] => false

/-- Reads a keyword. -/
def readKeyword (keyword : String) : Reading Unit := fun ts =>
  if atKeyword keyword ts then .ok ((), ts.drop 1) else .error (misfit ts)

/-- Reads a symbol. -/
def readSymbol (c : Char) : Reading Unit := fun ts =>
  if atSymbol c ts then .ok ((), ts.drop 1) else .error (misfit ts)

/-- Words that are no names. -/
def reserved : List String :=
  ["select", "from", "where", "union", "all", "order", "by", "limit", "offset", "as", "group",
   "having", "values", "insert", "into", "create", "table", "delete", "drop", "join", "on", "null",
   "and", "or", "not", "distinct", "set", "update", "index", "is", "in"]

/-- The name that a token stands for. -/
def Token.name? (t : Token) : Option Identifier :=
  match t.kind with
  | .word => if reserved.any t.isKeyword then none else some t.text
  | .quotedName name => some name
  | _ => none

/-- Reads a name. -/
def readName : Reading Identifier
  | [] => .error .incomplete
  | t :: ts =>
    match t.name? with
    | some name => .ok (name, ts)
    | none => .error (misfit (t :: ts))

/-- The number that a literal denotes. A whole number that is too large becomes a double. -/
def numberValue (negative : Bool) (text : List Char) : Value :=
  let n := digitsValue text
  if text.all isAsciiDigit && (n < twoTo 63 || (negative && n == twoTo 63)) then
    .int (Int64.ofInt (if negative then -(n : Int) else n))
  else
    match Decimal.readDecimal? text with
    | some (digits, exponent) => .float (Decimal.toBinary64 .double negative digits exponent)
    | none => .null

/-- Reads a literal. -/
def readLiteral : Reading Value := fun ts =>
  match ts with
  | [] => .error .incomplete
  | t :: rest =>
    match t.kind with
    | .number => .ok (numberValue false t.text, rest)
    | .text s => .ok (.text (String.ofList s), rest)
    | .bytes bs => .ok (.bytes bs, rest)
    | .word =>
      if t.isKeyword "null" then .ok (.null, rest)
      else if t.isKeyword "true" then .ok (.int 1, rest)
      else if t.isKeyword "false" then .ok (.int 0, rest)
      else .error (misfit ts)
    | .symbol =>
      match rest with
      | n :: rest' =>
        if n.kind = .number ∧ (t.isSymbol '-' ∨ t.isSymbol '+') then
          .ok (numberValue (t.isSymbol '-') n.text, rest')
        else .error (misfit ts)
      | [] => if t.isSymbol '-' ∨ t.isSymbol '+' then .error .incomplete else .error (misfit ts)
    | _ => .error (misfit ts)

/-- Reads a term. -/
def readTerm : Reading Term := fun ts =>
  if atSymbol '*' ts then .ok (.all, ts.drop 1)
  else if atKeyword "count" ts && atSymbol '(' (ts.drop 1) then do
    let (_, ts) ← readSymbol '*' (ts.drop 2)
    let (_, ts) ← readSymbol ')' ts
    .ok (.count, ts)
  else
    match readLiteral ts with
    | .ok (v, rest) => .ok (.literal v, rest)
    | .error _ => do
      let (name, rest) ← readName ts
      .ok (.column name, rest)

/-- Reads a label if one is there, and takes `default` otherwise. -/
def readLabel (default : List Char) : Reading (List Char) := fun ts =>
  if atKeyword "as" ts then
    match ts.drop 1 with
    | ⟨.text s, _⟩ :: rest => .ok (s, rest)
    | rest => readName rest
  else
    match readName ts with
    | .ok (name, rest) => .ok (name, rest)
    | .error _ => .ok (default, ts)

/-- Reads a column of a result. Without a label, it is labelled with its own text. -/
def readItem : Reading Item := fun ts => do
  let (term, rest) ← readTerm ts
  let default := match term with
    | .column name => name
    | _ => (ts.take (ts.length - rest.length)).flatMap (·.text)
  let (label, rest) ← readLabel default rest
  .ok (⟨term, label⟩, rest)

/-- Reads one thing after another with commas between, `fuel` at most. -/
def readMore {α : Type} (read : Reading α) : Nat → List α → Reading (List α)
  | 0, _, ts => .error (misfit ts)
  | fuel + 1, sofar, ts => do
    let (a, ts) ← read ts
    if atSymbol ',' ts then readMore read fuel (a :: sofar) (ts.drop 1)
    else .ok ((a :: sofar).reverse, ts)

/-- Reads a list with commas. -/
def readList {α : Type} (read : Reading α) : Reading (List α) := fun ts =>
  readMore read (ts.length + 1) [] ts

/-- Reads a list in parentheses. -/
def readTuple {α : Type} (read : Reading α) : Reading (List α) := fun ts => do
  let (_, ts) ← readSymbol '(' ts
  let (as, ts) ← readList read ts
  let (_, ts) ← readSymbol ')' ts
  .ok (as, ts)

/-- Reads one `SELECT`. -/
def readPart : Reading Part := fun ts => do
  let (_, ts) ← readKeyword "select" ts
  let (items, ts) ← readList readItem ts
  if atKeyword "from" ts then
    let (table, ts) ← readName (ts.drop 1)
    .ok (⟨items, some table⟩, ts)
  else .ok (⟨items, none⟩, ts)

/-- Reads the further parts of a compound, `fuel` at most. -/
def readOthers : Nat → List Part → Reading (List Part)
  | 0, sofar, ts => .ok (sofar.reverse, ts)
  | fuel + 1, sofar, ts =>
    if atKeyword "union" ts then do
      let (_, ts) ← readKeyword "all" (ts.drop 1)
      let (part, ts) ← readPart ts
      readOthers fuel (part :: sofar) ts
    else .ok (sofar.reverse, ts)

/-- Reads a key of sorting. -/
def readSortKey : Reading SortKey := fun ts => do
  let (key, ts) ← match ts with
    | ⟨.number, text⟩ :: rest => .ok (.inl (digitsValue text), rest)
    | _ => do
      let (name, ts) ← readName ts
      .ok (.inr name, ts)
  if atKeyword "desc" ts then .ok (⟨key, true⟩, ts.drop 1)
  else if atKeyword "asc" ts then .ok (⟨key, false⟩, ts.drop 1)
  else .ok (⟨key, false⟩, ts)

/-- Reads a whole number. -/
def readWhole : Reading Int := fun ts => do
  let (v, rest) ← readLiteral ts
  match v with
  | .int i => .ok (i.toInt, rest)
  | _ => .error (misfit ts)

/-- Reads a row limit, as the limit and the number of rows to skip. -/
def readLimit : Reading (Option Int × Int) := fun ts =>
  if atKeyword "limit" ts then do
    let (n, ts) ← readWhole (ts.drop 1)
    if atKeyword "offset" ts then
      let (skip, ts) ← readWhole (ts.drop 1)
      .ok ((some n, skip), ts)
    else if atSymbol ',' ts then
      let (m, ts) ← readWhole (ts.drop 1)
      .ok ((some m, n), ts)
    else .ok ((some n, 0), ts)
  else .ok ((none, 0), ts)

/-- Reads a query. -/
def readQuery : Reading Query := fun ts => do
  let (first, ts) ← readPart ts
  let (others, ts) ← readOthers ts.length [] ts
  let (order, ts) ←
    if atKeyword "order" ts then do
      let (_, ts) ← readKeyword "by" (ts.drop 1)
      readList readSortKey ts
    else .ok ([], ts)
  let ((limit?, skip), ts) ← readLimit ts
  .ok (⟨first, others, order, limit?, skip⟩, ts)

/-- Reads a statement without what may end it. -/
def readStatement : Reading Statement := fun ts =>
  if atKeyword "select" ts then do
    let (q, ts) ← readQuery ts
    .ok (.select q, ts)
  else if atKeyword "create" ts then do
    let (_, ts) ← readKeyword "table" (ts.drop 1)
    let (table, ts) ← readName ts
    let (columns, ts) ← readTuple readName ts
    .ok (.create table columns, ts)
  else if atKeyword "insert" ts then do
    let (_, ts) ← readKeyword "into" (ts.drop 1)
    let (table, ts) ← readName ts
    let (_, ts) ← readKeyword "values" ts
    let (rows, ts) ← readList (readTuple readLiteral) ts
    .ok (.insert table rows, ts)
  else if atKeyword "delete" ts then do
    let (_, ts) ← readKeyword "from" (ts.drop 1)
    let (table, ts) ← readName ts
    .ok (.delete table, ts)
  else if atKeyword "drop" ts then do
    let (_, ts) ← readKeyword "table" (ts.drop 1)
    let (table, ts) ← readName ts
    .ok (.drop table, ts)
  else .error (misfit ts)

/-- The statement of a text. A semicolon may end it. -/
def Statement.read (s : Sql) : Except SyntaxFault Statement := do
  let (statement, ts) ← readStatement (tokens s)
  let rest := if atSymbol ';' ts then ts.drop 1 else ts
  if rest.isEmpty then .ok statement else .error (misfit rest)

end QueryGate.Relational
