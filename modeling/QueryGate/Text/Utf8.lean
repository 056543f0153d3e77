/-!
# Texts in bytes

A text travels as bytes in UTF-8. Bytes that are no text are told apart by the place of the first
fault, and by how many bytes are at fault there.
-/

namespace QueryGate.Text

/-- The first place at which bytes are no text. -/
structure Utf8Fault where
  /-- The number of bytes before it. -/
  index : Nat
  /-- The number of bytes at fault; absent when the bytes end within a character. -/
  length? : Option Nat
  deriving DecidableEq, Repr

/-- The wording of a fault. -/
def Utf8Fault.message (f : Utf8Fault) : String :=
  match f.length? with
  | some n =>
    "invalid utf-8 sequence of " ++ Nat.repr n ++ " bytes from index " ++ Nat.repr f.index
  | none => "incomplete utf-8 byte sequence from index " ++ Nat.repr f.index

/-- The byte goes on a character of several bytes. -/
def isContinuation (b : UInt8) : Bool := 0x80 ≤ b && b ≤ 0xBF

/-- The range of the second byte of a character that starts with `b`, and how many bytes follow the
second; absent when no such character has more than one byte. -/
def continuations? (b : UInt8) : Option (UInt8 × UInt8 × Nat) :=
  if 0xC2 ≤ b ∧ b ≤ 0xDF then some (0x80, 0xBF, 0)
  else if b = 0xE0 then some (0xA0, 0xBF, 1)
  else if b = 0xED then some (0x80, 0x9F, 1)
  else if 0xE1 ≤ b ∧ b ≤ 0xEF then some (0x80, 0xBF, 1)
  else if b = 0xF0 then some (0x90, 0xBF, 2)
  else if b = 0xF4 then some (0x80, 0x8F, 2)
  else if 0xF1 ≤ b ∧ b ≤ 0xF3 then some (0x80, 0xBF, 2)
  else none

/-- Checks `more` further bytes of a character of which `seen` were right: what is at fault, or what
follows the character. -/
def checkRest : (more seen : Nat) → List UInt8 → Except (Option Nat) (List UInt8)
  | 0, _, bs => .ok bs
  | _ + 1, _, [] => .error none
  | more + 1, seen, b :: bs =>
    if isContinuation b then checkRest more (seen + 1) bs else .error (some seen)

/-- Checks one character: what is at fault, or what follows it. -/
def checkCharacter (b : UInt8) (bs : List UInt8) : Except (Option Nat) (List UInt8) :=
  if b < 0x80 then .ok bs
  else
    match continuations? b, bs with
    | none, _ => .error (some 1)
    | some _, [] => .error none
    | some (lo, hi, more), c :: cs =>
      if lo ≤ c ∧ c ≤ hi then checkRest more 2 cs else .error (some 1)

/-- The first fault of the bytes behind `index` others, if there is one within `fuel` characters. -/
def utf8FaultIn : Nat → Nat → List UInt8 → Option Utf8Fault
  | 0, _, _ => none
  | _ + 1, _, [] => none
  | fuel + 1, index, b :: bs =>
    match checkCharacter b bs with
    | .error length? => some ⟨index, length?⟩
    | .ok rest => utf8FaultIn fuel (index + 1 + bs.length - rest.length) rest

/-- The first fault of the bytes, if they are no text. -/
def utf8Fault? (bs : List UInt8) : Option Utf8Fault := utf8FaultIn bs.length 0 bs

/-- The text that the bytes stand for, if they are one. -/
def decodeUtf8? (bs : List UInt8) : Option String := String.fromUTF8? ⟨bs.toArray⟩

end QueryGate.Text
