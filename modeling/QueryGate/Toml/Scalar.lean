import QueryGate.Decimal.Reader
import QueryGate.Power
import QueryGate.Toml.Value

/-!
# Keys and scalar values of a settings file

Each reader takes the text and gives what it read with the rest of the text, or nothing when the
text does not start with such a thing.
-/

namespace QueryGate.Toml

open Text

/-- A reader of the start of a text. -/
abbrev Reader (α : Type) := List Char → Option (α × List Char)

/-! ### Blanks and comments -/

def isSpace (c : Char) : Bool := c == ' ' || c == '\t'

def skipSpace (cs : List Char) : List Char := cs.dropWhile isSpace

/-- A character that may stand in a comment or an unescaped string, quotes apart. -/
def isPlain (c : Char) : Bool := c == '\t' || (32 ≤ c.toNat && c.toNat != 127)

/-- The rest behind a line break. -/
def newline? : List Char → Option (List Char)
  | '\n' :: rest => some rest
  | '\r' :: '\n' :: rest => some rest
  | _ => none

/-- The rest behind a comment, if one starts here. -/
def skipComment (cs : List Char) : List Char :=
  match cs with
  | '#' :: rest => rest.dropWhile isPlain
  | _ => cs

/-- The rest behind blanks, an optional comment and the end of the line or of the text. -/
def endLine? (cs : List Char) : Option (List Char) :=
  match skipComment (skipSpace cs) with
  | [] => some []
  | rest => newline? rest

/-- The rest behind blanks, comments and line breaks. A comment ends with a line break. -/
def skipLines : Nat → List Char → Option (List Char)
  | 0, _ => none
  | fuel + 1, cs =>
    match skipSpace cs with
    | '#' :: rest => (newline? (rest.dropWhile isPlain)).bind (skipLines fuel)
    | rest =>
      match newline? rest with
      | some rest => skipLines fuel rest
      | none => some rest

/-! ### Strings -/

/-- The number that exactly `count` hexadecimal digits denote. -/
def hexNumber? (count : Nat) (cs : List Char) : Option (Nat × List Char) :=
  let digits := cs.take count
  if digits.length = count && digits.all fun c => (hexValue? c).isSome then
    some (digits.foldl (fun n c => 16 * n + (hexValue? c).getD 0) 0, cs.drop count)
  else none

/-- The character of a code point, surrogates excluded. -/
def charOf? (n : Nat) : Option Char := if n.isValidChar then some (Char.ofNat n) else none

/-- The character of an escape, behind its backslash. -/
def escape? : Reader Char
  | 'b' :: rest => some ('\x08', rest)
  | 't' :: rest => some ('\t', rest)
  | 'n' :: rest => some ('\n', rest)
  | 'f' :: rest => some ('\x0c', rest)
  | 'r' :: rest => some ('\r', rest)
  | '"' :: rest => some ('"', rest)
  | '\\' :: rest => some ('\\', rest)
  | 'u' :: rest => (hexNumber? 4 rest).bind fun (n, rest) => (charOf? n).map (·, rest)
  | 'U' :: rest => (hexNumber? 8 rest).bind fun (n, rest) => (charOf? n).map (·, rest)
  | _ => none

/-- The characters up to the closing quote of a string on one line. -/
def basicBody : Nat → Reader (List Char)
  | 0, _ => none
  | _ + 1, '"' :: rest => some ([], rest)
  | fuel + 1, '\\' :: rest =>
    (escape? rest).bind fun (c, rest) => (basicBody fuel rest).map fun (s, rest) => (c :: s, rest)
  | fuel + 1, c :: rest =>
    if isPlain c then (basicBody fuel rest).map fun (s, rest) => (c :: s, rest) else none
  | _ + 1, [] => none

/-- The characters up to the closing apostrophe of a string on one line. -/
def literalBody : Reader (List Char)
  | [] => none
  | '\'' :: rest => some ([], rest)
  | c :: rest =>
    if isPlain c then (literalBody rest).map fun (s, rest) => (c :: s, rest) else none

/-- The rest behind a line break, blanks before it and blanks and line breaks after it. -/
def lineFold? (cs : List Char) : Option (List Char) :=
  (newline? (skipSpace cs)).map fun rest =>
    rest.dropWhile fun c => isSpace c || c == '\n' || c == '\r'

/-- The characters up to the closing quotes of a string over several lines. Up to two quotes may
stand before the closing three. `literal` strings have no escapes. -/
def multiBody (quote : Char) (literal : Bool) : Nat → Reader (List Char)
  | 0, _ => none
  | _ + 1, [] => none
  | fuel + 1, c :: rest =>
    let more (s : List Char) (rest : List Char) :=
      (multiBody quote literal fuel rest).map fun (t, rest) => (s ++ t, rest)
    if c = quote then
      let quotes := (c :: rest).takeWhile (· == quote)
      if quotes.length < 3 then more quotes ((c :: rest).dropWhile (· == quote))
      else
        let n := min quotes.length 5
        some (List.replicate (n - 3) quote, (c :: rest).drop n)
    else if c = '\\' && !literal then
      match lineFold? rest with
      | some rest => more [] rest
      | none => (escape? rest).bind fun (e, rest) => more [e] rest
    else
      match newline? (c :: rest) with
      | some rest => more ['\n'] rest
      | none => if isPlain c then more [c] rest else none

/-- The rest behind a line break right after opening quotes. -/
def dropFirstNewline (cs : List Char) : List Char := (newline? cs).getD cs

/-- A string on one line. -/
def lineString? : Reader String
  | '"' :: rest =>
    (basicBody (rest.length + 1) rest).map fun (s, rest) => (String.ofList s, rest)
  | '\'' :: rest => (literalBody rest).map fun (s, rest) => (String.ofList s, rest)
  | _ => none

/-- A string of any kind. -/
def string? (cs : List Char) : Option (String × List Char) :=
  match cs with
  | '"' :: '"' :: '"' :: rest =>
    (multiBody '"' false (rest.length + 1) (dropFirstNewline rest)).map
      fun (s, rest) => (String.ofList s, rest)
  | '\'' :: '\'' :: '\'' :: rest =>
    (multiBody '\'' true (rest.length + 1) (dropFirstNewline rest)).map
      fun (s, rest) => (String.ofList s, rest)
  | _ => lineString? cs

/-! ### Keys -/

def isBareKey (c : Char) : Bool := isAsciiLetterOrDigit c || c == '_' || c == '-'

/-- One part of a key: bare or quoted. -/
def keyPart? (cs : List Char) : Option (String × List Char) :=
  match cs with
  | '"' :: _ => lineString? cs
  | '\'' :: _ => lineString? cs
  | _ =>
    let name := cs.takeWhile isBareKey
    if name.isEmpty then none else some (String.ofList name, cs.dropWhile isBareKey)

/-- The longest key and the deepest nesting that a document may have. -/
def maxDepth : Nat := 80

/-- The parts of a key with points between them, blanks around each. -/
def keyParts? : Nat → Reader (List String)
  | 0, _ => none
  | fuel + 1, cs =>
    (keyPart? (skipSpace cs)).bind fun (part, rest) =>
      match skipSpace rest with
      | '.' :: rest => (keyParts? fuel rest).map fun (parts, rest) => (part :: parts, rest)
      | rest => some ([part], rest)

/-- A key. -/
def key? (cs : List Char) : Option (List String × List Char) :=
  (keyParts? (cs.length + 1) cs).filter (·.1.length < maxDepth)

/-! ### Numbers -/

/-- Digits with single underscores between them, given without the underscores. -/
def digitRun? (isDigit : Char → Bool) : List Char → Option (List Char × List Char)
  | [] => none
  | [c] => if isDigit c then some ([c], []) else none
  | c :: d :: rest =>
    if isDigit c then
      if d = '_' then (digitRun? isDigit rest).map fun (ds, rest) => (c :: ds, rest)
      else if isDigit d then
        (digitRun? isDigit (d :: rest)).map fun (ds, rest) => (c :: ds, rest)
      else some ([c], d :: rest)
    else none

/-- The sign in front of a number, negative or not. -/
def sign (cs : List Char) : Bool × List Char :=
  match cs with
  | '-' :: rest => (true, rest)
  | '+' :: rest => (false, rest)
  | _ => (false, cs)

/-- Decimal digits without superfluous zeros in front. -/
def decimalRun? (cs : List Char) : Option (List Char × List Char) :=
  match cs with
  | '0' :: rest => some (['0'], rest)
  | _ => digitRun? isAsciiDigit cs

/-- An integer in the range of 64 bits. -/
def bounded? (i : Int) : Option Value :=
  if -(twoTo 63 : Int) ≤ i ∧ i < (twoTo 63 : Int) then some (.int i) else none

/-- Digits of another base behind its mark. -/
def basedInteger? (base : Nat) (cs : List Char) : Option (Value × List Char) :=
  (digitRun? (fun c => (hexValue? c).any (· < base)) cs).bind fun (ds, rest) =>
    (bounded? (ds.foldl (fun n c => base * n + (hexValue? c).getD 0) 0 : Nat)).map (·, rest)

/-- An integer: decimal with a sign, or hexadecimal, octal or binary without one. -/
def integer? (cs : List Char) : Option (Value × List Char) :=
  match cs with
  | '0' :: 'x' :: rest => basedInteger? 16 rest
  | '0' :: 'o' :: rest => basedInteger? 8 rest
  | '0' :: 'b' :: rest => basedInteger? 2 rest
  | _ =>
    let (negative, body) := sign cs
    (decimalRun? body).bind fun (ds, rest) =>
      let n : Int := digitsValue ds
      (bounded? (if negative then -n else n)).map (·, rest)

/-- The exponent of a float: its digits and the rest. -/
def exponent? : List Char → Option (Int × List Char)
  | c :: rest =>
    if c = 'e' || c = 'E' then
      let (negative, body) := sign rest
      (digitRun? isAsciiDigit body).map fun (ds, rest) =>
        let n : Int := digitsValue ds
        (if negative then -n else n, rest)
    else none
  | [] => none

/-- What a float of these parts is: nothing if it is larger than any finite double. -/
def finiteFloat? (negative : Bool) (digits : List Char) (exponent : Int) : Option Value :=
  if Decimal.toBinary64 .double negative (digitsValue digits) exponent == .infinity false then none
  else some .float

/-- A float: a decimal with a fraction or an exponent or both, or a word. -/
def float? (cs : List Char) : Option (Value × List Char) :=
  let (negative, body) := sign cs
  match body with
  | 'i' :: 'n' :: 'f' :: rest => some (.float, rest)
  | 'n' :: 'a' :: 'n' :: rest => some (.float, rest)
  | _ =>
    (decimalRun? body).bind fun (whole, rest) =>
      match rest with
      | '.' :: rest =>
        (digitRun? isAsciiDigit rest).bind fun (fraction, rest) =>
          let shift : Int := -(fraction.length : Int)
          match exponent? rest with
          | some (e, rest) => (finiteFloat? negative (whole ++ fraction) (e + shift)).map (·, rest)
          | none => (finiteFloat? negative (whole ++ fraction) shift).map (·, rest)
      | _ => (exponent? rest).bind fun (e, rest) => (finiteFloat? negative whole e).map (·, rest)

/-! ### Dates and times -/

/-- Exactly `count` digits as a number within bounds. -/
def twoDigits? (count lo hi : Nat) (cs : List Char) : Option (Nat × List Char) :=
  let ds := cs.take count
  let n := digitsValue ds
  if ds.length = count && ds.all isAsciiDigit && lo ≤ n && n ≤ hi then some (n, cs.drop count)
  else none

/-- The rest behind a character. -/
def expect? (c : Char) : List Char → Option (List Char)
  | d :: rest => if d = c then some rest else none
  | [] => none

/-- The number of days of a month. -/
def daysIn (year month : Nat) : Nat :=
  if month = 2 then
    if year % 4 = 0 && (year % 100 != 0 || year % 400 = 0) then 29 else 28
  else if [4, 6, 9, 11].contains month then 30 else 31

/-- The rest behind a date. -/
def date? (cs : List Char) : Option (List Char) := do
  let (year, cs) ← twoDigits? 4 0 9999 cs
  let cs ← expect? '-' cs
  let (month, cs) ← twoDigits? 2 1 12 cs
  let cs ← expect? '-' cs
  let (_, cs) ← twoDigits? 2 1 (daysIn year month) cs
  return cs

/-- The rest behind a time of day. -/
def time? (cs : List Char) : Option (List Char) := do
  let (_, cs) ← twoDigits? 2 0 23 cs
  let cs ← expect? ':' cs
  let (_, cs) ← twoDigits? 2 0 59 cs
  let cs ← expect? ':' cs
  let (_, cs) ← twoDigits? 2 0 60 cs
  match cs with
  | '.' :: d :: rest => if isAsciiDigit d then return rest.dropWhile isAsciiDigit else return cs
  | _ => return cs

/-- The rest behind an offset from universal time, if one stands here. -/
def skipOffset (cs : List Char) : Option (List Char) :=
  match cs with
  | 'Z' :: rest => some rest
  | 'z' :: rest => some rest
  | c :: rest =>
    if c = '+' || c = '-' then do
      let (_, rest) ← twoDigits? 2 0 23 rest
      let rest ← expect? ':' rest
      let (_, rest) ← twoDigits? 2 0 59 rest
      return rest
    else some cs
  | [] => some []

/-- A date, a time, or a date with a time and perhaps an offset. -/
def dateTime? (cs : List Char) : Option (Value × List Char) :=
  match date? cs with
  | some rest =>
    match rest with
    | c :: behind =>
      if c = 'T' || c = 't' || c = ' ' then
        match time? behind with
        | some rest => (skipOffset rest).map (.date, ·)
        | none => some (.date, rest)
      else some (.date, rest)
    | [] => some (.date, [])
  | none => (time? cs).map (.date, ·)

/-- The rest behind a word. -/
def word? : List Char → List Char → Option (List Char)
  | [], cs => some cs
  | _ :: _, [] => none
  | a :: w, c :: cs => if a = c then word? w cs else none

/-- A value without parts. -/
def scalar? (cs : List Char) : Option (Value × List Char) :=
  match cs with
  | [] => none
  | c :: _ =>
    if c = '"' || c = '\'' then (string? cs).map fun (s, rest) => (.str s, rest)
    else if c = 't' then (word? "true".toList cs).map (.bool true, ·)
    else if c = 'f' then (word? "false".toList cs).map (.bool false, ·)
    else if c = 'i' || c = 'n' then float? cs
    else ((dateTime? cs).or (float? cs)).or (integer? cs)

end QueryGate.Toml
