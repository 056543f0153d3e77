import QueryGate.Value.Basic

/-!
# Query plans

A plan is the list of the planner's steps, each a record. It is reduced to the indexes it uses and
the rows it expects to scan. A planner that reports neither gives an absent value, never an error.
-/

namespace QueryGate

/-- The steps of a plan. -/
abbrev Plan := List Record

namespace Plan

/-- `names` with the new ones of `more` behind, each once. -/
def addNames (names : List String) : List String → List String
  | [] => names
  | n :: more => addNames (if names.contains n then names else names ++ [n]) more

/-- The name of the index that a step uses. -/
def indexName? (step : Record) : Option String :=
  ((step.getIgnoreCase? "key").filter (!·.isNull)).map (·.display) |>.filter (!·.isEmpty)

/-- The distinct indexes of the plan in the order of their first step. -/
def indexes (plan : Plan) : List String := addNames [] (plan.filterMap indexName?)

/-- The indexes used, in one text; absent when there is none. -/
def indexUsed (plan : Plan) : Option String :=
  match indexes plan with
  | [] => none
  | names => some (", ".intercalate names)

/-- The row estimates that the steps report. -/
def rowCounts (plan : Plan) : List Nat :=
  plan.filterMap fun step => (step.getIgnoreCase? "rows").bind Value.count?

/-- The rows that the plan expects to scan; absent when no step reports a number. -/
def rowsScanned (plan : Plan) : Option Nat :=
  (rowCounts plan).foldl (fun total n => some (satAdd (total.getD 0) n)) none

def toJson (plan : Plan) : Json := .arr (plan.map Record.toJson)

/-- The plan as it is kept for later inspection. -/
def text (plan : Plan) : String := plan.toJson.text

end Plan

end QueryGate
