import QueryGate.Proofs.Text.Blanks
import QueryGate.Text.Fragment

/-!
# Parentheses, comments and quotes

What a text looks like that is read without regard to comments and literals: its parentheses match,
nothing in it begins a comment, and nothing in it quotes a literal.

* `nesting d s`: the depth of parentheses behind `s`, begun at depth `d`. A text is balanced where
  `nesting 0 s = some 0`.
* `Uncommented`, `Unquoted`: no mark of a comment, and no quotation mark, stands in the text.
-/

namespace QueryGate.Text

/-! ## Parentheses -/

/-- The depth behind a character at depth `d`; none if it closes a parenthesis that none opened. -/
def depthAfter (d : Nat) (c : Char) : Option Nat :=
  if c = '(' then some (d + 1)
  else if c = ')' then (if d = 0 then none else some (d - 1))
  else some d

/-- The depth of parentheses behind the text, begun at depth `d`. -/
def nesting (d : Nat) : List Char → Option Nat
  | [] => some d
  | c :: cs => (depthAfter d c).bind fun d => nesting d cs

/-- The text has no parentheses. -/
def Flat (s : List Char) : Prop := '(' ∉ s ∧ ')' ∉ s

theorem nesting_append (d : Nat) (a b : List Char) :
    nesting d (a ++ b) = (nesting d a).bind fun d => nesting d b := by
  induction a generalizing d with
  | nil => rfl
  | cons c a ih =>
    rw [List.cons_append, nesting, nesting, Option.bind_assoc]
    simp only [ih]

theorem nesting_of_flat {s : List Char} (h : Flat s) (d : Nat) : nesting d s = some d := by
  induction s with
  | nil => rfl
  | cons c s ih =>
    obtain ⟨ho, hc⟩ := h
    rw [List.mem_cons, not_or] at ho hc
    rw [nesting, depthAfter, if_neg (Ne.symm ho.1), if_neg (Ne.symm hc.1), Option.bind_some]
    exact ih ⟨ho.2, hc.2⟩

theorem nesting_flat_append {a : List Char} (h : Flat a) (d : Nat) (b : List Char) :
    nesting d (a ++ b) = nesting d b := by
  rw [nesting_append, nesting_of_flat h, Option.bind_some]

theorem nesting_append_flat {b : List Char} (h : Flat b) (d : Nat) (a : List Char) :
    nesting d (a ++ b) = nesting d a := by
  rw [nesting_append]
  simp only [nesting_of_flat h]
  cases nesting d a <;> rfl

theorem flat_of_allBlank {s : List Char} (h : AllBlank s) : Flat s :=
  ⟨fun hm => absurd (h _ hm) (by decide), fun hm => absurd (h _ hm) (by decide)⟩

/-! ## Comments and quotes -/

/-- None of the marks that begin a comment stands in the text. -/
def Uncommented (s : List Char) : Prop :=
  ∀ mark ∈ ["--".toList, "#".toList, "/*".toList], occurs mark s = false

instance (s : List Char) : Decidable (Uncommented s) :=
  inferInstanceAs
    (Decidable (∀ mark ∈ ["--".toList, "#".toList, "/*".toList], occurs mark s = false))

/-- Neither of the marks that quote a literal stands in the text. -/
def Unquoted (s : List Char) : Prop := '\x27' ∉ s ∧ '\x22' ∉ s

instance (s : List Char) : Decidable (Unquoted s) :=
  inferInstanceAs (Decidable ('\x27' ∉ s ∧ '\x22' ∉ s))

end QueryGate.Text
