import QueryGate.Text.Blank
import QueryGate.Text.Integer
import QueryGate.Text.Word

/-!
# Which log lines are shown

A filter is a list of directives with commas between. A directive names the level down to which
lines are shown: for all of the program's parts, as in `warn`, or for those whose name begins with a
text, as in `name=debug`. The directive with the longest fitting name decides, of equal ones the
last; a part that none fits is silent. Directives with brackets are about work in progress and never
about a line on its own.
-/

namespace QueryGate

open Text

/-- How much is shown, from nothing (0) to everything (5). Errors are shown from level 1 on. -/
abbrev Level := Nat

namespace Level

def errors : Level := 1
def notes : Level := 3
def everything : Level := 5

/-- The words for levels. -/
def words : List (String × Level) :=
  [("off", 0), ("error", 1), ("warn", 2), ("info", 3), ("debug", 4), ("trace", 5)]

/-- The level that a text names by number or word. No text names the level of errors. -/
def ofText? (cs : List Char) : Option Level :=
  match readNat? 6 cs with
  | some n => some n
  | none => if cs.isEmpty then some errors else words.lookup (String.ofList (cs.map lowerAscii))

end Level

/-- What a filter says about the lines of some parts. -/
structure Directive where
  /-- With what the names of the parts begin. -/
  target : List Char
  level : Level
  deriving DecidableEq, Repr

namespace Directive

/-- `c` may begin a directive. -/
def canStart (c : Char) : Bool := isWord c || c == '-' || c == ':' || c == '['

/-- What follows a bracket that was opened: its end, and perhaps a level. -/
def closesWell (cs : List Char) : Bool :=
  match cs.dropWhile (· ≠ ']') with
  | [] => false
  | [_] => true
  | _ :: '=' :: level => level.isEmpty || (Level.ofText? level).isSome
  | _ => false

/-- Reads a directive; one with brackets says nothing about lines. Blanks around a directive shift
the places of its parts, so that it names a part that does not exist or cannot be read. -/
def read? (written : List Char) : Option (Option Directive) :=
  let cs := trim written
  match cs.head? with
  | none => none
  | some first =>
    if !canStart first then none
    else
      let target := cs.takeWhile fun c => c != '=' && c != '['
      match cs.drop target.length with
      | [] =>
        match Level.ofText? written with
        | some level => some (some ⟨[], level⟩)
        | none => some (some ⟨written, .everything⟩)
      | '=' :: _ =>
        let level := written.drop (target.length + 1)
        if level.isEmpty then some (some ⟨written.take target.length, .everything⟩)
        else (Level.ofText? level).map fun n => some ⟨written.take target.length, n⟩
      | _ :: rest => if closesWell rest then some none else none

end Directive

/-- A filter: its directives about lines. -/
structure LineFilter where
  directives : List Directive
  deriving DecidableEq, Repr

namespace LineFilter

/-- Cuts a text at every comma and drops what is empty. -/
def pieces (cs : List Char) : List (List Char) :=
  (cs.foldr
    (fun c ps => if c = ',' then [] :: ps else match ps with
      | p :: ps => (c :: p) :: ps
      | [] => [[c]])
    [[]]).filter (!·.isEmpty)

/-- Reads a filter. One without directives shows errors. -/
def read? (cs : List Char) : Option LineFilter :=
  let ps := pieces cs
  if ps.isEmpty then some ⟨[⟨[], .errors⟩]⟩
  else (ps.mapM Directive.read?).map fun ds => ⟨ds.filterMap id⟩

/-- The filter when nothing usable is asked for. -/
def standard : LineFilter := ⟨[⟨[], .notes⟩]⟩

/-- The filter that the environment asks for, if it does. -/
def ofSetting (setting : Option (List Char)) : LineFilter := (setting.bind read?).getD standard

/-- The level for the lines of a part. -/
def levelFor (f : LineFilter) (part : List Char) : Level :=
  let fitting := f.directives.filter fun d => d.target.isPrefixOf part
  let best := fitting.foldl
    (fun (best : Option Directive) d =>
      if best.all (·.target.length ≤ d.target.length) then some d else best) none
  (best.map (·.level)).getD 0

/-- Errors of a part are shown. -/
def showsErrors (f : LineFilter) (part : List Char) : Bool := Level.errors ≤ f.levelFor part

end LineFilter

end QueryGate
