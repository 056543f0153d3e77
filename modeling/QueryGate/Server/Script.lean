import QueryGate.Sandbox.Dialogue
import QueryGate.Server.Cell
import QueryGate.Text.Fragment

/-!
# Scripted servers

A scripted server answers a statement by the first rule whose fragment stands in it, and meets each
new connection as its list of greetings says. Everything else succeeds and changes nothing.
-/

namespace QueryGate.Server

open Text

/-- An error that a server reports. -/
structure ServerError where
  code : Nat
  /-- The class of the error. -/
  state : Option String
  message : String
  deriving DecidableEq, Repr

namespace ServerError

/-- Code, class and message. -/
def body (e : ServerError) : String :=
  String.ofList (natText e.code) ++
    (match e.state with
      | some state => " (" ++ state ++ "): "
      | none => ": ") ++ e.message

/-- The error as the answer to a statement. -/
def text (e : ServerError) : String := "ERROR " ++ e.body

/-- The error as the driver shows it around statements. -/
def driverText (e : ServerError) : String := "error returned from database: " ++ e.body

end ServerError

/-- A column of a reply: its label and the name of its type. -/
structure ReplyColumn where
  label : String
  type : String
  deriving DecidableEq, Repr

/-- The answer to a statement. -/
inductive StatementReply where
  /-- So many rows were changed. -/
  | ok (affected : Nat)
  | fail (error : ServerError)
  | rows (columns : List ReplyColumn) (cells : List (List (Option (List UInt8))))
  /-- No answer, ever. -/
  | hang
  /-- Success, but no transaction is open. -/
  | noTransaction
  deriving DecidableEq, Repr

/-- How a new connection is met. -/
inductive Greeting where
  | accept
  /-- The connection is closed at once. -/
  | drop
  /-- The login is refused. -/
  | refuse (error : ServerError)
  deriving DecidableEq, Repr

/-- A scripted server. -/
structure Script where
  rules : List (List Char × StatementReply) := []
  greetings : List Greeting := []
  /-- Somebody listens for connections. -/
  listening : Bool := true
  deriving Repr

/-- The reply to a statement. -/
def Script.reply (s : Script) (sql : Sql) : StatementReply :=
  match s.rules.find? (occurs ·.1 sql) with
  | some (_, reply) => reply
  | none => .ok 0

/-- The greeting of the connection with this number. -/
def Script.greeting (s : Script) (number : Nat) : Greeting :=
  s.greetings[number - 1]?.getD .accept

/-- A row under its labels, each cell read as its column says. -/
def rowRecord (columns : List ReplyColumn) (cells : List (Option (List UInt8))) : Record :=
  ⟨columns.zipWith (fun c cell => (c.label, (CellKind.ofType c.type).decode cell)) cells⟩

/-- What is reported when a transaction did not begin. -/
def noTransactionText : String :=
  "got unexpected connection status after attempting to begin transaction"

namespace StatementReply

/-- The result of a command that was answered so, on the connection with this number; absent when
it was not answered. -/
def result? (number : Nat) (r : StatementReply) : (c : Command) → Option c.Result
  | .limitTime _ =>
    match r with
    | .fail e => some (.error e.text)
    | .hang => none
    | _ => some (.ok ())
  | .connectionNumber =>
    match r with
    | .fail e => some (.error e.text)
    | .hang => none
    | _ => some (.ok number)
  | .begin =>
    match r with
    | .fail e => some (.error e.text)
    | .hang => none
    | .noTransaction => some (.error noTransactionText)
    | _ => some (.ok ())
  | .probe _ =>
    match r with
    | .fail e => some (.error e.text)
    | .hang => none
    | .rows columns cells => some (.ok (cells.map (rowRecord columns)))
    | _ => some (.ok [])
  | .run _ =>
    match r with
    | .fail e => some (.error e.text)
    | .hang => none
    | .rows columns cells => some (.ok (cells.map (rowRecord columns)))
    | _ => some (.ok [])
  | .describe _ =>
    match r with
    | .fail e => some (.error e.text)
    | .hang => none
    | .rows columns _ => some (.ok (columns.map (·.label)))
    | _ => some (.ok [])
  | .rollback =>
    match r with
    | .fail e => some (.error e.text)
    | .hang => none
    | _ => some (.ok ())

end StatementReply

end QueryGate.Server
