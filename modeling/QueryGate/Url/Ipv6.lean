import QueryGate.Json
import QueryGate.Url.Percent

/-!
# IPv6 addresses

Reading the usual notations of an address (`::` for a run of zeros, a dotted IPv4 address at the
end) and writing it in the canonical one: lower-case digits without leading zeros, and `::` for the
first of the longest runs of at least two zeros.
-/

namespace QueryGate.Url

open Text

/-- A number below 256 in decimal without superfluous zeros, and what follows it. -/
def ipv4Piece? (cs : List Char) : Option (Nat × List Char) :=
  let digits := cs.takeWhile isAsciiDigit
  let n := digitsValue digits
  if digits.isEmpty || 255 < n || (1 < digits.length && digits.head? == some '0') then none
  else some (n, cs.dropWhile isAsciiDigit)

/-- `count` numbers with points between them, filling the text. -/
def ipv4Pieces? : Nat → List Char → Option (List Nat)
  | 0, _ => none
  | 1, cs =>
    match ipv4Piece? cs with
    | some (n, []) => some [n]
    | _ => none
  | count + 1, cs =>
    match ipv4Piece? cs with
    | some (n, '.' :: rest) => (ipv4Pieces? count rest).map (n :: ·)
    | _ => none

/-- The two pieces that a dotted IPv4 address fills. -/
def dottedPieces? (cs : List Char) : Option (List Nat) :=
  match ipv4Pieces? 4 cs with
  | some [a, b, c, d] => some [256 * a + b, 256 * c + d]
  | _ => none

/-- Up to four hexadecimal digits at the start, as a number, and what follows them. -/
def hexPiece (cs : List Char) : Nat × List Char :=
  let digits := (cs.take 4).takeWhile fun c => (hexValue? c).isSome
  (digits.foldl (fun n c => 16 * n + (hexValue? c).getD 0) 0, cs.drop digits.length)

/-- The pieces before and behind `::`. -/
structure Ipv6Pieces where
  before : List Nat := []
  /-- Absent when there is no `::`. -/
  behind : Option (List Nat) := none

namespace Ipv6Pieces

/-- The places taken; `::` takes at least one. -/
def used (p : Ipv6Pieces) : Nat :=
  p.before.length + match p.behind with
    | some l => l.length + 1
    | none => 0

def push (p : Ipv6Pieces) (n : Nat) : Ipv6Pieces :=
  match p.behind with
  | some l => { p with behind := some (l ++ [n]) }
  | none => { p with before := p.before ++ [n] }

/-- The eight pieces of the address, zeros put in for `::`. -/
def complete? (p : Ipv6Pieces) : Option (List Nat) :=
  match p.behind with
  | some l => some (p.before ++ List.replicate (8 - p.before.length - l.length) 0 ++ l)
  | none => if p.before.length = 8 then some p.before else none

end Ipv6Pieces

/-- Reads pieces until the text ends; `fuel` is more than the pieces it can hold. -/
def ipv6Loop : Nat → Ipv6Pieces → List Char → Option Ipv6Pieces
  | 0, _, _ => none
  | _ + 1, p, [] => some p
  | fuel + 1, p, c :: cs =>
    if p.used = 8 then none
    else if c = ':' then
      if p.behind.isSome then none else ipv6Loop fuel { p with behind := some [] } cs
    else
      match hexPiece (c :: cs) with
      | (n, []) => some (p.push n)
      | (n, ':' :: rest) => if rest.isEmpty then none else ipv6Loop fuel (p.push n) rest
      | (_, '.' :: _) =>
        if c = '.' || 6 < p.used then none
        else (dottedPieces? (c :: cs)).map fun l => l.foldl Ipv6Pieces.push p
      | _ => none

/-- The eight pieces of an address without its brackets. -/
def readIpv6? (cs : List Char) : Option (List Nat) :=
  let start := match cs with
    | ':' :: ':' :: rest => ipv6Loop 10 { behind := some [] } rest
    | ':' :: _ => none
    | [] => none
    | _ => ipv6Loop 10 {} cs
  start.bind Ipv6Pieces.complete?

/-- The hexadecimal text of a piece. -/
def pieceText (n : Nat) : List Char := Nat.toDigits 16 n

/-- The number of zeros at the start. -/
def zeroRun (pieces : List Nat) : Nat := (pieces.takeWhile (· == 0)).length

/-- The place and length of the first of the longest runs of zeros, from place `i` on. -/
def longestZeros : Nat → List Nat → Nat × Nat
  | _, [] => (0, 0)
  | i, n :: rest =>
    let here := zeroRun (n :: rest)
    let later := longestZeros (i + 1) rest
    if here = 0 || here < later.2 then later else (i, here)

/-- Pieces with colons between them. -/
def joinPieces : List Nat → List Char
  | [] => []
  | [n] => pieceText n
  | n :: m :: rest => pieceText n ++ ':' :: joinPieces (m :: rest)

/-- The canonical text of an address. -/
def ipv6Text (pieces : List Nat) : List Char :=
  let (start, len) := longestZeros 0 pieces
  if len < 2 then joinPieces pieces
  else joinPieces (pieces.take start) ++ ':' :: ':' :: joinPieces (pieces.drop (start + len))

end QueryGate.Url
