/-!
# Values of a settings file

The values that a TOML document can hold, as far as settings need them: of a float or a date only
its kind is kept, because no setting has such a value.
-/

namespace QueryGate.Toml

/-- A value of a document. -/
inductive Value where
  | str (s : String)
  | int (i : Int)
  | bool (b : Bool)
  | float
  | date
  | arr (items : List Value)
  | table (fields : List (String × Value))

/-- The value of a key. -/
def lookup? (fields : List (String × Value)) (key : String) : Option Value :=
  (fields.find? (·.1 == key)).map (·.2)

end QueryGate.Toml
