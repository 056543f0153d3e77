import QueryGate.Decimal.Layout
import QueryGate.Text.Integer

/-!
# Structured output

JSON values with the keys of an object in order and repeated keys kept, and their two written
forms: `compact` on one line, `pretty` with two spaces for each level.

In a string only the quote, the backslash and the characters below U+0020 are escaped. A number
that is infinite or no number is written `null`.
-/

namespace QueryGate

open Text

/-- A JSON value. -/
inductive Json where
  | null
  | bool (b : Bool)
  | int (i : Int)
  | float (x : Binary64)
  | str (s : String)
  | arr (items : List Json)
  | obj (fields : List (String × Json))

namespace Json

/-- A lower-case hexadecimal digit. -/
def hexDigit (n : Nat) : Char := if n < 10 then Char.ofNat (48 + n) else Char.ofNat (87 + n)

/-- A character inside a string. -/
def escapeChar (c : Char) : List Char :=
  if c = '"' then ['\\', '"']
  else if c = '\\' then ['\\', '\\']
  else if c = '\x08' then ['\\', 'b']
  else if c = '\x0c' then ['\\', 'f']
  else if c = '\n' then ['\\', 'n']
  else if c = '\r' then ['\\', 'r']
  else if c = '\t' then ['\\', 't']
  else if c.toNat < 32 then
    ['\\', 'u', '0', '0', hexDigit (c.toNat / 16), hexDigit (c.toNat % 16)]
  else [c]

/-- The characters of a string, escaped. -/
def escape : List Char → List Char
  | [] => []
  | c :: cs => escapeChar c ++ escape cs

/-- A string in quotes. -/
def quote (s : String) : List Char := '"' :: (escape s.toList ++ ['"'])

/-- The text of a double. -/
def floatText (x : Binary64) : List Char :=
  match x.classify with
  | .finite negative m e => Decimal.structured.finiteText negative m e
  | _ => "null".toList

def boolText (b : Bool) : List Char := if b then "true".toList else "false".toList

mutual

/-- The value on one line without blanks. -/
def compact : Json → List Char
  | .null => "null".toList
  | .bool b => boolText b
  | .int i => intText i
  | .float x => floatText x
  | .str s => quote s
  | .arr items => '[' :: (compactItems items ++ [']'])
  | .obj fields => '{' :: (compactFields fields ++ ['}'])

def compactItems : List Json → List Char
  | [] => []
  | [v] => v.compact
  | v :: w :: rest => v.compact ++ ',' :: compactItems (w :: rest)

def compactFields : List (String × Json) → List Char
  | [] => []
  | [(k, v)] => quote k ++ ':' :: v.compact
  | (k, v) :: f :: rest => quote k ++ ':' :: (v.compact ++ ',' :: compactFields (f :: rest))

end

/-- A line break and the indentation of a level. -/
def newLine (level : Nat) : List Char := '\n' :: List.replicate (2 * level) ' '

mutual

/-- The value over several lines, with `level` steps of indentation around it. -/
def prettyAt (level : Nat) : Json → List Char
  | .null => "null".toList
  | .bool b => boolText b
  | .int i => intText i
  | .float x => floatText x
  | .str s => quote s
  | .arr [] => ['[', ']']
  | .arr (v :: rest) =>
    '[' :: (newLine (level + 1) ++ v.prettyAt (level + 1) ++
      (prettyItems level rest ++ (newLine level ++ [']'])))
  | .obj [] => ['{', '}']
  | .obj ((k, v) :: rest) =>
    '{' :: (newLine (level + 1) ++ quote k ++ ':' :: ' ' :: v.prettyAt (level + 1) ++
      (prettyFields level rest ++ (newLine level ++ ['}'])))

def prettyItems (level : Nat) : List Json → List Char
  | [] => []
  | v :: rest => ',' :: (newLine (level + 1) ++ v.prettyAt (level + 1) ++ prettyItems level rest)

def prettyFields (level : Nat) : List (String × Json) → List Char
  | [] => []
  | (k, v) :: rest =>
    ',' :: (newLine (level + 1) ++ quote k ++ ':' :: ' ' :: v.prettyAt (level + 1) ++
      prettyFields level rest)

end

/-- The compact form as a string. -/
def text (j : Json) : String := String.ofList j.compact

/-- The indented form as a string. -/
def prettyText (j : Json) : String := String.ofList (j.prettyAt 0)

/-- A value that may be absent. -/
def ofOption {α : Type} (f : α → Json) : Option α → Json
  | some a => f a
  | none => .null

def ofNat (n : Nat) : Json := .int n

end Json

end QueryGate
