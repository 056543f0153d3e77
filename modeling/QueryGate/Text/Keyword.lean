import QueryGate.Text.Blank
import QueryGate.Text.Word

/-!
# Keywords

Keywords are written in lower-case ASCII letters and found in a text without regard to case. Case
is compared by simple folding, under which `ſ` is an `s` and the Kelvin sign is a `k`; the dotted
and dotless Turkish letters are no `i`.

* `stripKeyword?` reads a keyword off the start of a text, `stripWord?` reads it as a whole word.
* `startsPhrase` reads several whole words with blanks between them.
* `anyWordStart` looks at every position where a word may begin.
-/

namespace QueryGate.Text

/-- A keyword: lower-case ASCII letters. -/
abbrev Keyword := List Char

/-- The lower-case ASCII letter that `c` folds to, or `c` itself. -/
def foldLetter (c : Char) : Char :=
  if 'A' ≤ c ∧ c ≤ 'Z' then Char.ofNat (c.toNat + 32)
  else if c = 'ſ' then 's'
  else if c = '\u212A' then 'k'
  else c

/-- What follows the keyword at the start of the text, if it stands there. -/
def stripKeyword? : Keyword → List Char → Option (List Char)
  | [], cs => some cs
  | _ :: _, [] => none
  | k :: ks, c :: cs => if foldLetter c = k then stripKeyword? ks cs else none

/-- No word character stands at the start of the text. -/
def endsWord : List Char → Bool
  | [] => true
  | c :: _ => !isWord c

/-- A blank stands at the start of the text. -/
def startsBlank : List Char → Bool
  | [] => false
  | c :: _ => isBlank c

/-- What follows the keyword at the start of the text, if it stands there as a whole word. -/
def stripWord? (k : Keyword) (cs : List Char) : Option (List Char) :=
  (stripKeyword? k cs).filter endsWord

/-- The text starts with the keyword as a whole word. -/
def startsWord (k : Keyword) (cs : List Char) : Bool := (stripWord? k cs).isSome

/-- The text starts with the keywords as whole words with blanks between them. -/
def startsPhrase : List Keyword → List Char → Bool
  | [], _ => true
  | [k], cs => startsWord k cs
  | k :: ks, cs =>
    match stripWord? k cs with
    | some rest => startsBlank rest && startsPhrase ks (trimStart rest)
    | none => false

/-- `p` holds of the text from some position on that does not follow a word character. `inWord`
tells whether the text itself follows one. -/
def anyWordStart (p : List Char → Bool) (inWord : Bool) : List Char → Bool
  | [] => false
  | c :: cs => (!inWord && p (c :: cs)) || anyWordStart p (isWord c) cs

/-- The keywords occur somewhere as whole words with blanks between them. -/
def containsPhrase (ks : List Keyword) (cs : List Char) : Bool :=
  anyWordStart (startsPhrase ks) false cs

theorem stripKeyword?_length {k : Keyword} {cs rest : List Char}
    (h : stripKeyword? k cs = some rest) : cs.length = k.length + rest.length := by
  induction k generalizing cs with
  | nil => simp_all [stripKeyword?]
  | cons a k ih =>
    cases cs with
    | nil => simp [stripKeyword?] at h
    | cons c cs =>
      simp only [stripKeyword?] at h
      split at h
      · have := ih h
        simp only [List.length_cons]
        omega
      · simp at h

theorem stripWord?_length {k : Keyword} {cs rest : List Char}
    (h : stripWord? k cs = some rest) : cs.length = k.length + rest.length :=
  stripKeyword?_length (Option.filter_eq_some_iff.mp h).1

end QueryGate.Text
