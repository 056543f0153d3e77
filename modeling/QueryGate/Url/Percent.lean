import QueryGate.Text.Ascii

/-!
# Percent-encoding

A character that may not stand in some part of a URL is written as the hexadecimal numbers of its
UTF-8 bytes, each behind a percent sign. Each part of a URL has its own set of such characters;
characters outside ASCII belong to every one of them.
-/

namespace QueryGate.Url

open Text

/-- A set of ASCII characters that are encoded. -/
abbrev EncodeSet := Char → Bool

namespace EncodeSet

/-- Control characters. -/
def controls : EncodeSet := fun c => c.toNat < 32 || c.toNat == 127

/-- The characters encoded in a query. -/
def query : EncodeSet := fun c => controls c || [' ', '"', '#', '<', '>'].contains c

/-- The characters encoded in a path. -/
def path : EncodeSet := fun c =>
  controls c || [' ', '"', '<', '>', '\x60', '#', '?', '\x7b', '\x7d'].contains c

/-- The characters encoded in a user name or password. -/
def userinfo : EncodeSet := fun c =>
  path c || ['/', ':', ';', '=', '@', '[', '\\', ']', '^', '|'].contains c

end EncodeSet

/-- An upper-case hexadecimal digit. -/
def upperHex (n : Nat) : Char := if n < 10 then Char.ofNat (48 + n) else Char.ofNat (55 + n)

/-- A byte behind a percent sign. -/
def encodeByte (b : UInt8) : List Char := ['%', upperHex (b.toNat / 16), upperHex (b.toNat % 16)]

/-- A character, encoded if it is in the set or outside ASCII. -/
def encodeChar (set : EncodeSet) (c : Char) : List Char :=
  if set c || 128 ≤ c.toNat then (String.utf8EncodeChar c).flatMap encodeByte else [c]

/-- A text with the characters of the set encoded. -/
def encode (set : EncodeSet) (cs : List Char) : List Char := cs.flatMap (encodeChar set)

/-- The bytes of a text in which `%` and two hexadecimal digits stand for a byte. A percent sign
before anything else stands for itself. -/
def decodeBytes : List Char → List UInt8
  | [] => []
  | '%' :: a :: b :: rest =>
    match hexValue? a, hexValue? b with
    | some x, some y => UInt8.ofNat (16 * x + y) :: decodeBytes rest
    | _, _ => 37 :: decodeBytes (a :: b :: rest)
  | c :: rest => String.utf8EncodeChar c ++ decodeBytes rest
termination_by cs => cs.length

end QueryGate.Url
