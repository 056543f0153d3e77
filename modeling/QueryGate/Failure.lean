/-!
# Failures around queries

What goes wrong with a statement is part of its outcome. A failure concerns what is around it:
connecting, settings, the history, sample data, and requests that make no sense.
-/

namespace QueryGate

/-- The area in which a failure arose. -/
inductive FailureKind where
  | connection
  | query
  | config
  | persistence
  | conflict
  | invalidRequest
  | internal
  deriving DecidableEq, Repr

/-- A failure with its explanation. -/
structure Failure where
  kind : FailureKind
  detail : String
  deriving DecidableEq, Repr

/-- The heading under which a failure is shown. -/
def FailureKind.category : FailureKind → String
  | .connection => "Connection Error"
  | .query => "Query Error"
  | .config => "Configuration Error"
  | .persistence => "Persistence Error"
  | .conflict => "Conflict"
  | .invalidRequest => "Invalid Request"
  | .internal => "Internal Error"

/-- What stands before the explanation of a failure. -/
def FailureKind.lead : FailureKind → String
  | .connection => "Connection error: "
  | .query => "Query error: "
  | .config => "Configuration error: "
  | .persistence => "Persistence error: "
  | .conflict => "Conflict: "
  | .invalidRequest => "Invalid request: "
  | .internal => "Internal error: "

/-- The text of a failure. -/
def Failure.message (f : Failure) : String := f.kind.lead ++ f.detail

/-- Why a pool of connections that was closed gives none. -/
def closedPool : String := "attempted to acquire a connection on a closed pool"

end QueryGate
