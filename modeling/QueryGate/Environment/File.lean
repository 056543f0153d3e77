import QueryGate.Environment.Basic
import QueryGate.Text.Blank
import QueryGate.Text.Integer
import QueryGate.Text.Word

/-!
# Environment files

An environment file holds one assignment `NAME=value` a line, with `export` in front if one likes.
A value may be quoted, and a quoted value may run over several lines. In apostrophes everything
stands for itself; elsewhere a backslash takes the meaning from the next character, and `$NAME` or
`$` with a name in braces stands for the value of a variable. A `#` behind a blank begins a comment.

The first line that cannot be read ends the file. What stands before it counts.
-/

namespace QueryGate.Environment

open Text

/-! ### Lines -/

/-- Where a reader of lines stands between quotes. -/
inductive Span where
  | plain
  | afterBlank
  | escaped
  | single
  | singleEscaped
  | double
  | doubleEscaped
  deriving DecidableEq, Repr

/-- Where the reader stands behind a character. -/
def Span.next (s : Span) (c : Char) : Span :=
  let opened : Span :=
    if c = '\\' then .escaped else if c = '"' then .double
    else if c = '\'' then .single else .plain
  match s with
  | .plain => if isBlank c && c != '\n' && c != '\r' then .afterBlank else opened
  | .afterBlank => opened
  | .escaped => .plain
  | .single => if c = '\\' then .singleEscaped else if c = '\'' then .plain else .single
  | .singleEscaped => .single
  | .double => if c = '\\' then .doubleEscaped else if c = '"' then .plain else .double
  | .doubleEscaped => .double

/-- A line without the carriage return at its end, given from its last character on. -/
def finishLine (reversed : List Char) : List Char :=
  match reversed with
  | '\r' :: r => r.reverse
  | r => r.reverse

/-- The lines of a text, without their comments. A line goes on while a quote is open; if the text
ends before the quote does, the last line is absent. In `none` the reader is in a comment. -/
def lines : Option Span → List Char → List Char → List (Option (List Char))
  | none, _, [] => []
  | none, line, c :: cs => if c = '\n' then lines (some .plain) [] cs else lines none line cs
  | some s, line, [] =>
    if s ≠ .plain then [none] else if line.isEmpty then [] else [some line.reverse]
  | some s, line, c :: cs =>
    if c = '#' ∧ (s = .afterBlank ∨ (s = .plain ∧ line.all isBlank)) then
      some line.reverse :: lines none [] cs
    else if c = '\n' ∧ s.next c = .plain then
      some (finishLine line) :: lines (some .plain) [] cs
    else lines (some (s.next c)) (c :: line) cs

/-! ### Values -/

/-- Where a reader of a value stands. A flag tells whether it is inside double quotes. -/
inductive Place where
  | plain (quoted : Bool)
  | escaped (quoted : Bool)
  | single
  /-- Behind a dollar sign and this part of a name. -/
  | name (quoted : Bool) (soFar : List Char)
  /-- In braces behind a dollar sign. -/
  | braces (quoted : Bool) (soFar : List Char)
  /-- Behind the value: only blanks and a comment may follow. -/
  | ending
  deriving DecidableEq, Repr

/-- `c` may stand in a name behind a dollar sign. -/
def isNameChar (c : Char) : Bool := c != '_' && isWord c

/-- What a character stands for behind a backslash. -/
def escapee? (c : Char) : Option Char :=
  if c = 'n' then some '\n'
  else if c = '\\' ∨ c = '\'' ∨ c = '"' ∨ c = '$' ∨ c = ' ' then some c
  else none

/-- The value of a variable, or nothing. -/
def valueOf (e : Environment) (name : List Char) : List Char :=
  (e.get? (String.ofList name)).getD []

/-- Reads a value, given what was read of it. -/
def readValue? (e : Environment) : Place → List Char → List Char → Option (List Char)
  | .plain quoted, out, [] => if quoted then none else some out
  | .escaped quoted, out, [] => if quoted then none else some out
  | .single, _, [] => none
  | .name quoted n, out, [] => if quoted then none else some (out ++ e.valueOf n)
  | .braces _ _, _, [] => none
  | .ending, out, [] => some out
  | .plain true, out, c :: cs =>
    if c = '$' then readValue? e (.name true []) out cs
    else if c = '"' then readValue? e (.plain false) out cs
    else if c = '\\' then readValue? e (.escaped true) out cs
    else readValue? e (.plain true) (out ++ [c]) cs
  | .plain false, out, c :: cs =>
    if c = '$' then readValue? e (.name false []) out cs
    else if c = '\'' then readValue? e .single out cs
    else if c = '"' then readValue? e (.plain true) out cs
    else if c = '\\' then readValue? e (.escaped false) out cs
    else if c = ' ' ∨ c = '\t' then readValue? e .ending out cs
    else readValue? e (.plain false) (out ++ [c]) cs
  | .escaped quoted, out, c :: cs =>
    match escapee? c with
    | some d => readValue? e (.plain quoted) (out ++ [d]) cs
    | none => none
  | .single, out, c :: cs =>
    if c = '\'' then readValue? e (.plain false) out cs else readValue? e .single (out ++ [c]) cs
  | .name quoted n, out, c :: cs =>
    if isNameChar c then readValue? e (.name quoted (n ++ [c])) out cs
    else if c = '\x7b' ∧ n = [] then readValue? e (.braces quoted []) out cs
    else if c = '$' then readValue? e (.name quoted []) (out ++ e.valueOf n) cs
    else readValue? e (.plain quoted) (out ++ e.valueOf n ++ [c]) cs
  | .braces quoted n, out, c :: cs =>
    if c = '\x7d' then readValue? e (.plain quoted) (out ++ e.valueOf n) cs
    else readValue? e (.braces quoted (n ++ [c])) out cs
  | .ending, out, c :: cs =>
    if c = ' ' ∨ c = '\t' then readValue? e .ending out cs
    else if c = '#' then some out
    else none

/-! ### Assignments -/

/-- What a line says. -/
inductive LineReading where
  | nothing
  | assignment (name : String) (value : List Char)
  | unreadable
  deriving DecidableEq, Repr

/-- `c` may begin a name. -/
def startsName (c : Char) : Bool := c == '_' || isAsciiLetter c

/-- `c` may stand in a name. -/
def continuesName (c : Char) : Bool := startsName c || isAsciiDigit c || c == '.'

/-- The name at the start of a text, and what follows it behind blanks. -/
def readName? (cs : List Char) : Option (List Char × List Char) :=
  match cs with
  | c :: _ =>
    if startsName c then some (cs.takeWhile continuesName, trimStart (cs.dropWhile continuesName))
    else none
  | [] => none

/-- The name that a line assigns to, and what stands behind the equals sign. -/
def readTarget? (cs : List Char) : Option (List Char × List Char) := do
  let (name, rest) ← readName? cs
  match rest with
  | '=' :: value => some (name, trimStart value)
  | _ =>
    if name = "export".toList then
      match ← readName? rest with
      | (name, '=' :: value) => some (name, trimStart value)
      | _ => none
    else none

/-- Reads a line. -/
def readLine (e : Environment) (line : List Char) : LineReading :=
  let isOver (cs : List Char) : Bool := cs.isEmpty || cs.head? == some '#'
  let cs := trim line
  if isOver cs then .nothing
  else
    match readTarget? cs with
    | none => .unreadable
    | some (name, value) =>
      if isOver value then .assignment (String.ofList name) []
      else
        match e.readValue? (.plain false) [] value with
        | some v => .assignment (String.ofList name) v
        | none => .unreadable

/-- Adds what the lines assign, up to the first that cannot be read. -/
def addLines (e : Environment) : List (Option (List Char)) → Environment
  | [] => e
  | none :: _ => e
  | some line :: rest =>
    match e.readLine line with
    | .nothing => addLines e rest
    | .assignment name value => addLines (e.offer name value) rest
    | .unreadable => e

/-- Adds the variables of a file that are not set yet. A byte order mark at its start is skipped. -/
def addFile (e : Environment) (text : List Char) : Environment :=
  match text with
  | '\uFEFF' :: cs => e.addLines (lines (some .plain) [] cs)
  | cs => e.addLines (lines (some .plain) [] cs)

end QueryGate.Environment
