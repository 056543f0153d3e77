import QueryGate.Power
import QueryGate.Text.Utf8
import QueryGate.Url.Basic

/-!
# Logging in

A connection string says as whom to log in, and to which database. Its parts are decoded, and its
options are checked, before anything is sent.
-/

namespace QueryGate.Server

open Text

/-- As whom a connection logs in. -/
structure Login where
  user : String := "root"
  password : Option String := none
  database : Option String := none
  deriving DecidableEq, Repr

/-- Why a connection string cannot be used. -/
inductive LoginFault where
  | badUrl (error : Url.UrlError)
  | badText (fault : Utf8Fault)
  | unknownMode (value : String)
  | badNumber (reason : String)
  deriving DecidableEq, Repr

/-- A character as it is shown in a quoted text. -/
def shownChar (c : Char) : List Char :=
  if c = '"' ∨ c = '\\' then ['\\', c]
  else if c = '\n' then ['\\', 'n']
  else if c = '\r' then ['\\', 'r']
  else if c = '\t' then ['\\', 't']
  else [c]

/-- A text in quotes. -/
def shownQuoted (s : String) : String := "\"" ++ String.ofList (s.toList.flatMap shownChar) ++ "\""

/-- What every fault of a connection string starts with. -/
def faultLead : String := "error with configuration: "

/-- The wording of a fault. -/
def LoginFault.message : LoginFault → String
  | .badUrl error => faultLead ++ error.message
  | .badText fault => faultLead ++ fault.message
  | .unknownMode value =>
    faultLead ++ faultLead ++ "unknown value " ++ shownQuoted value ++ " for \x60ssl_mode\x60"
  | .badNumber reason => faultLead ++ reason

/-- The text that percent-encoded characters stand for. -/
def decodeText (cs : List Char) : Except LoginFault String :=
  let bs := Url.decodeBytes cs
  match decodeUtf8? bs with
  | some s => .ok s
  | none => .error (.badText ((utf8Fault? bs).getD ⟨0, none⟩))

/-- Cuts a text at every `c`. -/
def splitAt (c : Char) : List Char → List (List Char)
  | [] => [[]]
  | d :: ds =>
    if d = c then [] :: splitAt c ds
    else
      match splitAt c ds with
      | [] => [[d]]
      | p :: ps => (d :: p) :: ps

/-- The text of a query's name or value, in which a plus sign stands for a space. -/
def decodeField (cs : List Char) : List Char :=
  let bs := Url.decodeBytes (cs.map fun c => if c = '+' then ' ' else c)
  ((decodeUtf8? bs).map String.toList).getD cs

/-- The options of a query. -/
def optionsOf (query : List Char) : List (List Char × List Char) :=
  ((splitAt '&' query).filter (!·.isEmpty)).map fun p =>
    (decodeField (p.takeWhile (· ≠ '=')), decodeField ((p.dropWhile (· ≠ '=')).drop 1))

/-- The ways in which a connection may be encrypted. -/
def modes : List String := ["disabled", "preferred", "required", "verify_ca", "verify_identity"]

/-- What is wrong with an option, if anything is. -/
def optionFault? (o : List Char × List Char) : Option LoginFault :=
  if ["sslmode", "ssl-mode"].contains (String.ofList o.1) then
    if modes.contains (String.ofList (o.2.map lowerAscii)) then none
    else some (.unknownMode (String.ofList o.2))
  else if o.1 = "statement-cache-capacity".toList then
    let digits := match o.2 with
      | '+' :: rest => rest
      | _ => o.2
    if o.2.isEmpty then some (.badNumber "cannot parse integer from empty string")
    else
      match readDigits? digits with
      | none => some (.badNumber "invalid digit found in string")
      | some n =>
        if n < twoTo 64 then none
        else some (.badNumber "number too large to fit in target type")
  else none

/-- The path without the slashes at its start. -/
def databasePart (path : List Char) : List Char := path.dropWhile (· = '/')

/-- The login that a connection string asks for. -/
def Login.ofText (s : List Char) : Except LoginFault Login := do
  let u ← (Url.read s).mapError .badUrl
  let user ← if u.user.isEmpty then .ok "root" else decodeText u.user
  let password ← match u.password with
    | some p => (decodeText p).map some
    | none => .ok none
  let name := databasePart u.path
  let database ← if name.isEmpty then .ok none else (decodeText name).map some
  match ((u.query.map optionsOf).getD []).findSome? optionFault? with
  | some fault => .error fault
  | none => .ok ⟨user, password, database⟩

end QueryGate.Server
