import QueryGate.Text.Integer

/-!
# Tokens of a statement

A statement of a file database is cut into words, names in quotes, literals and single symbols.
Blanks and comments separate tokens. Every token keeps its text for messages and labels.
-/

namespace QueryGate.Relational

open Text

/-- What a token is. -/
inductive TokenKind where
  | word
  /-- A name in quotes, without them. -/
  | quotedName (name : List Char)
  /-- A text literal, without its quotes. -/
  | text (s : List Char)
  /-- A literal of bytes. -/
  | bytes (bs : List UInt8)
  | number
  | symbol
  /-- What is no token, such as an unfinished literal. -/
  | bad
  deriving DecidableEq, Repr

/-- A token and its text in the statement. -/
structure Token where
  kind : TokenKind
  text : List Char
  deriving DecidableEq, Repr

/-- `c` separates tokens. -/
def isSpace (c : Char) : Bool :=
  c == ' ' || c == '\t' || c == '\n' || c == '\r' || c == '\x0c'

/-- `c` may start a word. -/
def startsName (c : Char) : Bool :=
  isAsciiLetter c || c == '_' || 127 < c.toNat

/-- `c` may go on in a word. -/
def continuesName (c : Char) : Bool := startsName c || isAsciiDigit c || c == '$'

/-- The text up to the closing quote, in which a doubled quote stands for one, and what follows.
The text with its quotes is given in reverse. -/
def readQuoted (quote : Char) : List Char → List Char → List Char →
    Option (List Char × List Char × List Char)
  | [], _, _ => none
  | c :: cs, inner, raw =>
    if c = quote then
      match cs with
      | [] => some (inner.reverse, c :: raw, [])
      | d :: ds =>
        if d = quote then readQuoted quote ds (quote :: inner) (d :: c :: raw)
        else some (inner.reverse, c :: raw, d :: ds)
    else readQuoted quote cs (c :: inner) (c :: raw)

/-- The bytes that pairs of hexadecimal digits denote. -/
def hexBytes? : List Char → Option (List UInt8)
  | [] => some []
  | a :: b :: rest =>
    match hexValue? a, hexValue? b, hexBytes? rest with
    | some x, some y, some bs => some (UInt8.ofNat (16 * x + y) :: bs)
    | _, _, _ => none
  | [_] => none

/-- The characters of a number at the start of the text: digits, a point, digits, an exponent. -/
def numberText (cs : List Char) : List Char :=
  let whole := cs.takeWhile isAsciiDigit
  let rest := cs.drop whole.length
  let fraction := match rest with
    | '.' :: r => '.' :: r.takeWhile isAsciiDigit
    | _ => []
  let rest := rest.drop fraction.length
  let exponent := match rest with
    | e :: r =>
      if e = 'e' ∨ e = 'E' then
        let sign := r.takeWhile fun c => c == '+' || c == '-'
        let digits := (r.drop sign.length).takeWhile isAsciiDigit
        if sign.length ≤ 1 ∧ digits ≠ [] then e :: (sign ++ digits) else []
      else []
    | [] => []
  whole ++ fraction ++ exponent

/-- What stands behind a comment that began with `/*`. -/
def skipBlockComment : List Char → List Char
  | [] => []
  | '*' :: '/' :: rest => rest
  | _ :: rest => skipBlockComment rest

/-- The token at the start of a text that starts with no blank, and what follows it. -/
def readToken (c : Char) (cs : List Char) : Token × List Char :=
  let bad : Token × List Char := (⟨.bad, c :: cs⟩, [])
  if c = '\'' then
    match readQuoted c cs [] [c] with
    | some (inner, raw, rest) => (⟨.text inner, raw.reverse⟩, rest)
    | none => bad
  else if c = '"' ∨ c = '\x60' then
    match readQuoted c cs [] [c] with
    | some (inner, raw, rest) => (⟨.quotedName inner, raw.reverse⟩, rest)
    | none => bad
  else if (c = 'x' ∨ c = 'X') ∧ cs.head? = some '\'' then
    match readQuoted '\'' (cs.drop 1) [] ['\'', c] with
    | some (inner, raw, rest) =>
      match hexBytes? inner with
      | some bs => (⟨.bytes bs, raw.reverse⟩, rest)
      | none => (⟨.bad, raw.reverse⟩, rest)
    | none => bad
  else if isAsciiDigit c ∨ (c = '.' ∧ (cs.head?.any isAsciiDigit)) then
    let text := numberText (c :: cs)
    (⟨.number, text⟩, (c :: cs).drop text.length)
  else if startsName c then
    (⟨.word, c :: cs.takeWhile continuesName⟩, cs.dropWhile continuesName)
  else (⟨.symbol, [c]⟩, cs)

/-- The tokens of a text, `fuel` at most. -/
def tokensIn : Nat → List Char → List Token
  | 0, _ => []
  | _ + 1, [] => []
  | fuel + 1, c :: cs =>
    if isSpace c then tokensIn fuel cs
    else
      match c, cs with
      | '-', '-' :: rest => tokensIn fuel (rest.dropWhile (· ≠ '\n'))
      | '/', '*' :: rest => tokensIn fuel (skipBlockComment rest)
      | _, _ =>
        let (token, rest) := readToken c cs
        token :: tokensIn fuel rest

/-- The tokens of a statement. -/
def tokens (s : List Char) : List Token := tokensIn s.length s

end QueryGate.Relational
