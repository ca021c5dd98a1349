namespace SemanticLayer.Sha256

/-! The SHA-256 digest of a list of bytes. -/

def initial : List UInt32 :=
  [0x6a09e667, 0xbb67ae85, 0x3c6ef372, 0xa54ff53a, 0x510e527f, 0x9b05688c, 0x1f83d9ab, 0x5be0cd19]

def roundConstants : List UInt32 :=
  [0x428a2f98, 0x71374491, 0xb5c0fbcf, 0xe9b5dba5, 0x3956c25b, 0x59f111f1, 0x923f82a4, 0xab1c5ed5,
    0xd807aa98, 0x12835b01, 0x243185be, 0x550c7dc3, 0x72be5d74, 0x80deb1fe, 0x9bdc06a7, 0xc19bf174,
    0xe49b69c1, 0xefbe4786, 0x0fc19dc6, 0x240ca1cc, 0x2de92c6f, 0x4a7484aa, 0x5cb0a9dc, 0x76f988da,
    0x983e5152, 0xa831c66d, 0xb00327c8, 0xbf597fc7, 0xc6e00bf3, 0xd5a79147, 0x06ca6351, 0x14292967,
    0x27b70a85, 0x2e1b2138, 0x4d2c6dfc, 0x53380d13, 0x650a7354, 0x766a0abb, 0x81c2c92e, 0x92722c85,
    0xa2bfe8a1, 0xa81a664b, 0xc24b8b70, 0xc76c51a3, 0xd192e819, 0xd6990624, 0xf40e3585, 0x106aa070,
    0x19a4c116, 0x1e376c08, 0x2748774c, 0x34b0bcb5, 0x391c0cb3, 0x4ed8aa4a, 0x5b9cca4f, 0x682e6ff3,
    0x748f82ee, 0x78a5636f, 0x84c87814, 0x8cc70208, 0x90befffa, 0xa4506ceb, 0xbef9a3f7, 0xc67178f2]

def rotate (word count : UInt32) : UInt32 := (word >>> count) ||| (word <<< (32 - count))

/-- Eight bytes, the most significant first. -/
def lengthBytes (bits : Nat) : List UInt8 :=
  [56, 48, 40, 32, 24, 16, 8, 0].map fun shift => UInt8.ofNat (bits >>> shift)

/-- A one bit, the fewest zeros that fill a block of 64 bytes, and the length in bits. -/
def padded (message : List UInt8) : List UInt8 :=
  let size := message.length
  message ++ 0x80 :: List.replicate ((119 - size % 64) % 64) 0 ++ lengthBytes (8 * size)

/-- Big-endian words; a rest of fewer than four bytes is dropped. -/
def wordsOf : List UInt8 → List UInt32
  | a :: b :: c :: d :: rest =>
      (a.toUInt32 <<< 24 ||| b.toUInt32 <<< 16 ||| c.toUInt32 <<< 8 ||| d.toUInt32) :: wordsOf rest
  | _ => []

/-- The next word of the schedule from the sixteen before it, the latest one first. -/
def nextWord (latest : List UInt32) : UInt32 :=
  let before (index : Nat) : UInt32 := latest.getD (index - 1) 0
  let early := before 15
  let late := before 2
  before 16 + (rotate early 7 ^^^ rotate early 18 ^^^ early >>> 3) + before 7 +
    (rotate late 17 ^^^ rotate late 19 ^^^ late >>> 10)

/-- Extend a schedule, kept with the latest word first. -/
def extend (schedule : List UInt32) : Nat → List UInt32
  | 0 => schedule
  | count + 1 => extend (nextWord schedule :: schedule) count

structure Registers where
  a : UInt32
  b : UInt32
  c : UInt32
  d : UInt32
  e : UInt32
  f : UInt32
  g : UInt32
  h : UInt32

def round (r : Registers) (input : UInt32 × UInt32) : Registers :=
  let choice := (r.e &&& r.f) ^^^ (~~~ r.e &&& r.g)
  let majority := (r.a &&& r.b) ^^^ (r.a &&& r.c) ^^^ (r.b &&& r.c)
  let first := r.h + (rotate r.e 6 ^^^ rotate r.e 11 ^^^ rotate r.e 25) + choice + input.1 + input.2
  let second := (rotate r.a 2 ^^^ rotate r.a 13 ^^^ rotate r.a 22) + majority
  { a := first + second, b := r.a, c := r.b, d := r.c
    e := r.d + first, f := r.e, g := r.f, h := r.g }

def compress (state : List UInt32) (block : List UInt32) : List UInt32 :=
  let schedule := (extend block.reverse 48).reverse
  match state with
  | [a, b, c, d, e, f, g, h] =>
      let r := (roundConstants.zip schedule).foldl round ⟨a, b, c, d, e, f, g, h⟩
      [a + r.a, b + r.b, c + r.c, d + r.d, e + r.e, f + r.f, g + r.g, h + r.h]
  | other => other

/-- Blocks of sixteen words; `count` is how many there are. -/
def blocks (words : List UInt32) : Nat → List (List UInt32)
  | 0 => []
  | count + 1 => words.take 16 :: blocks (words.drop 16) count

def digest (message : List UInt8) : List UInt32 :=
  let words := wordsOf (padded message)
  (blocks words (words.length / 16)).foldl compress initial

def hexDigit (value : UInt32) : Char := "0123456789abcdef".toList.getD value.toNat '0'

def hexWord (word : UInt32) : List Char :=
  ([28, 24, 20, 16, 12, 8, 4, 0] : List UInt32).map fun shift => hexDigit ((word >>> shift) &&& 15)

/-- In lower-case hexadecimal digits. -/
def hexDigest (message : List UInt8) : String := String.ofList ((digest message).flatMap hexWord)

end SemanticLayer.Sha256
