/-!
# SHA-256

The secure hash of a message, as 64 lower-case hexadecimal digits.
-/

namespace Schemata.Sha256

/-- The first 32 bits of the fractional parts of the cube roots of the first 64 primes. -/
def roundConstants : List UInt32 := [
  0x428a2f98, 0x71374491, 0xb5c0fbcf, 0xe9b5dba5, 0x3956c25b, 0x59f111f1, 0x923f82a4, 0xab1c5ed5,
  0xd807aa98, 0x12835b01, 0x243185be, 0x550c7dc3, 0x72be5d74, 0x80deb1fe, 0x9bdc06a7, 0xc19bf174,
  0xe49b69c1, 0xefbe4786, 0x0fc19dc6, 0x240ca1cc, 0x2de92c6f, 0x4a7484aa, 0x5cb0a9dc, 0x76f988da,
  0x983e5152, 0xa831c66d, 0xb00327c8, 0xbf597fc7, 0xc6e00bf3, 0xd5a79147, 0x06ca6351, 0x14292967,
  0x27b70a85, 0x2e1b2138, 0x4d2c6dfc, 0x53380d13, 0x650a7354, 0x766a0abb, 0x81c2c92e, 0x92722c85,
  0xa2bfe8a1, 0xa81a664b, 0xc24b8b70, 0xc76c51a3, 0xd192e819, 0xd6990624, 0xf40e3585, 0x106aa070,
  0x19a4c116, 0x1e376c08, 0x2748774c, 0x34b0bcb5, 0x391c0cb3, 0x4ed8aa4a, 0x5b9cca4f, 0x682e6ff3,
  0x748f82ee, 0x78a5636f, 0x84c87814, 0x8cc70208, 0x90befffa, 0xa4506ceb, 0xbef9a3f7, 0xc67178f2]

structure State where
  a : UInt32
  b : UInt32
  c : UInt32
  d : UInt32
  e : UInt32
  f : UInt32
  g : UInt32
  h : UInt32

/-- The first 32 bits of the fractional parts of the square roots of the first eight primes. -/
def State.initial : State :=
  ⟨0x6a09e667, 0xbb67ae85, 0x3c6ef372, 0xa54ff53a, 0x510e527f, 0x9b05688c, 0x1f83d9ab, 0x5be0cd19⟩

def State.add (left right : State) : State :=
  ⟨left.a + right.a, left.b + right.b, left.c + right.c, left.d + right.d, left.e + right.e,
    left.f + right.f, left.g + right.g, left.h + right.h⟩

def State.words (state : State) : List UInt32 :=
  [state.a, state.b, state.c, state.d, state.e, state.f, state.g, state.h]

def rotate (word : UInt32) (count : UInt32) : UInt32 :=
  (word >>> count) ||| (word <<< (32 - count))

def round (state : State) (constant word : UInt32) : State :=
  let sum1 := rotate state.e 6 ^^^ rotate state.e 11 ^^^ rotate state.e 25
  let choice := (state.e &&& state.f) ^^^ (~~~state.e &&& state.g)
  let first := state.h + sum1 + choice + constant + word
  let sum0 := rotate state.a 2 ^^^ rotate state.a 13 ^^^ rotate state.a 22
  let majority := (state.a &&& state.b) ^^^ (state.a &&& state.c) ^^^ (state.b &&& state.c)
  ⟨first + (sum0 + majority), state.a, state.b, state.c, state.d + first, state.e, state.f, state.g⟩

def nextWord (recent : List UInt32) : UInt32 :=
  let w2 := recent.getD 1 0
  let w15 := recent.getD 14 0
  let sigma1 := rotate w2 17 ^^^ rotate w2 19 ^^^ (w2 >>> 10)
  let sigma0 := rotate w15 7 ^^^ rotate w15 18 ^^^ (w15 >>> 3)
  sigma1 + recent.getD 6 0 + sigma0 + recent.getD 15 0

/-- A schedule, latest words first, with some more words. -/
def extend : (more : Nat) → List UInt32 → List UInt32
  | 0, recent => recent
  | more + 1, recent => extend more (nextWord recent :: recent)

def schedule (block : List UInt32) : List UInt32 :=
  (extend 48 block.reverse).reverse

def compress (state : State) (block : List UInt32) : State :=
  state.add ((roundConstants.zip (schedule block)).foldl
    (fun state step => round state step.1 step.2) state)

def lengthBytes (bits : Nat) : List UInt8 :=
  (List.range 8).map fun place => UInt8.ofNat (bits >>> (8 * (7 - place)))

/-- A message with a one bit, zeros up to eight bytes before the end of a block, and its length. -/
def pad (message : List UInt8) : List UInt8 :=
  let zeros := (119 - message.length % 64) % 64
  message ++ 0x80 :: List.replicate zeros 0 ++ lengthBytes (8 * message.length)

/-- The words of a list of bytes, most significant byte first. -/
def toWords : List UInt8 → List UInt32
  | a :: b :: c :: d :: rest =>
      ((a.toUInt32 <<< 24) ||| (b.toUInt32 <<< 16) ||| (c.toUInt32 <<< 8) ||| d.toUInt32) ::
        toWords rest
  | _ => []

def compressAll : (blocks : Nat) → State → List UInt32 → State
  | 0, state, _ => state
  | blocks + 1, state, words => compressAll blocks (compress state (words.take 16)) (words.drop 16)

def hash (message : List UInt8) : State :=
  let words := toWords (pad message)
  compressAll (words.length / 16) State.initial words

def hexWord (word : UInt32) : List Char :=
  let digits := Nat.toDigits 16 word.toNat
  List.replicate (8 - digits.length) '0' ++ digits

def hexDigest (text : String) : String :=
  String.ofList ((hash text.toUTF8.toList).words.flatMap hexWord)

end Schemata.Sha256
