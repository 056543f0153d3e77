/-!
# Privilege of a caller
-/

namespace QueryGate

/-- What a caller may ask for. -/
inductive Privilege where
  /-- Any statement without a forbidden command. -/
  | admin
  /-- `SELECT` over the allow-listed tables. -/
  | standard
  deriving DecidableEq, Repr

/-- The privilege behind an administrator flag. -/
def Privilege.ofAdmin (isAdmin : Bool) : Privilege := if isAdmin then .admin else .standard

def Privilege.isAdmin : Privilege → Bool
  | .admin => true
  | .standard => false

/-- The word for a privilege, in messages and in structured output alike. -/
def Privilege.name : Privilege → String
  | .admin => "admin"
  | .standard => "standard"

end QueryGate
