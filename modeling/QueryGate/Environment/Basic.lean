/-!
# Environments

The variables that surround a run of the program. A variable that is set keeps its value; an
environment file only adds what is missing.
-/

namespace QueryGate

/-- Variables with their values. Of two values of one variable the first counts. -/
structure Environment where
  entries : List (String × List Char) := []
  deriving DecidableEq, Repr

namespace Environment

/-- The value of a variable, if it is set. -/
def get? (e : Environment) (name : String) : Option (List Char) := e.entries.lookup name

/-- Sets a variable, unless it is set already. -/
def offer (e : Environment) (name : String) (value : List Char) : Environment :=
  if (e.get? name).isSome then e else ⟨e.entries ++ [(name, value)]⟩

end Environment

end QueryGate
