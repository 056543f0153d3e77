import QueryGate.Random.Source

/-!
# The ChaCha stream

Random words from the ChaCha stream cipher with twelve rounds, a 64-bit block counter that starts at
zero and no nonce. A seed of 64 bits is spread over the key by a linear congruential generator.
-/

namespace QueryGate.Random

/-- The sixteen words of a block. -/
abbrev Block := Vector UInt32 16

/-- A word turned left by `k` bits. -/
def rotateLeft (x : UInt32) (k : UInt32) : UInt32 := (x <<< k) ||| (x >>> (32 - k))

/-- The quarter round on four places of a block. -/
def quarterRound (b : Block) (i j k l : Fin 16) : Block :=
  let x := b[i] + b[j]
  let w := rotateLeft (b[l] ^^^ x) 16
  let y := b[k] + w
  let v := rotateLeft (b[j] ^^^ y) 12
  let x := x + v
  let w := rotateLeft (w ^^^ x) 8
  let y := y + w
  let v := rotateLeft (v ^^^ y) 7
  (((b.set i x).set j v).set k y).set l w

/-- A round on the columns and one on the diagonals. -/
def doubleRound (b : Block) : Block :=
  let b := quarterRound b 0 4 8 12
  let b := quarterRound b 1 5 9 13
  let b := quarterRound b 2 6 10 14
  let b := quarterRound b 3 7 11 15
  let b := quarterRound b 0 5 10 15
  let b := quarterRound b 1 6 11 12
  let b := quarterRound b 2 7 8 13
  quarterRound b 3 4 9 14

/-- `n` double rounds. -/
def doubleRounds : Nat → Block → Block
  | 0, b => b
  | n + 1, b => doubleRounds n (doubleRound b)

/-- The block with a key and a counter that the rounds start from. -/
def initialBlock (key : Vector UInt32 8) (counter : UInt64) : Block :=
  #v[0x61707865, 0x3320646e, 0x79622d32, 0x6b206574,
     key[0], key[1], key[2], key[3], key[4], key[5], key[6], key[7],
     counter.toUInt32, (counter >>> 32).toUInt32, 0, 0]

/-- The words that a key and a counter give. -/
def keystream (key : Vector UInt32 8) (counter : UInt64) : List UInt32 :=
  let start := initialBlock key counter
  (Vector.zipWith (· + ·) (doubleRounds 6 start) start).toList

/-- A stream: its key, the counter of the next block, and the words left of the last one. -/
structure ChaCha where
  key : Vector UInt32 8
  counter : UInt64 := 0
  rest : List UInt32 := []

namespace ChaCha

instance : Source ChaCha where
  next s :=
    match s.rest with
    | w :: rest => (w, { s with rest })
    | [] =>
      match keystream s.key s.counter with
      | w :: rest => (w, { s with counter := s.counter + 1, rest })
      | [] => (0, s)

/-- The state of the seed's generator behind one step. -/
def stepSeed (s : UInt64) : UInt64 := s * 6364136223846793005 + 11634580027462260723

/-- The key word that a state of the seed's generator gives. -/
def seedWord (s : UInt64) : UInt32 :=
  let x := (((s >>> 18) ^^^ s) >>> 27).toUInt32
  let k := (s >>> 59).toUInt32
  (x >>> k) ||| (x <<< ((32 - k) &&& 31))

/-- `n` key words from a state of the seed's generator. -/
def seedWords : Nat → UInt64 → List UInt32
  | 0, _ => []
  | n + 1, s => seedWord (stepSeed s) :: seedWords n (stepSeed s)

theorem seedWords_length (n : Nat) (s : UInt64) : (seedWords n s).length = n := by
  induction n generalizing s with
  | zero => rfl
  | succ n ih => simp [seedWords, ih]

/-- The stream of a seed. -/
def ofSeed (seed : UInt64) : ChaCha where
  key := ⟨(seedWords 8 seed).toArray, by simp [seedWords_length]⟩

end ChaCha

end QueryGate.Random
