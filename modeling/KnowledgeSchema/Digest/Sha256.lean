/-!
# SHA-256

The digest of a list of bytes, and its sixty-four hexadecimal digits.
-/

namespace KnowledgeSchema.Sha256

/-- The eight working words. -/
structure State where
  a : UInt32
  b : UInt32
  c : UInt32
  d : UInt32
  e : UInt32
  f : UInt32
  g : UInt32
  h : UInt32

def State.start : State :=
  ⟨0x6a09e667, 0xbb67ae85, 0x3c6ef372, 0xa54ff53a, 0x510e527f, 0x9b05688c, 0x1f83d9ab, 0x5be0cd19⟩

def State.add (s t : State) : State :=
  ⟨s.a + t.a, s.b + t.b, s.c + t.c, s.d + t.d, s.e + t.e, s.f + t.f, s.g + t.g, s.h + t.h⟩

def State.words (s : State) : List UInt32 :=
  [s.a, s.b, s.c, s.d, s.e, s.f, s.g, s.h]

def roundConstants : List UInt32 := [
  0x428a2f98, 0x71374491, 0xb5c0fbcf, 0xe9b5dba5, 0x3956c25b, 0x59f111f1, 0x923f82a4, 0xab1c5ed5,
  0xd807aa98, 0x12835b01, 0x243185be, 0x550c7dc3, 0x72be5d74, 0x80deb1fe, 0x9bdc06a7, 0xc19bf174,
  0xe49b69c1, 0xefbe4786, 0x0fc19dc6, 0x240ca1cc, 0x2de92c6f, 0x4a7484aa, 0x5cb0a9dc, 0x76f988da,
  0x983e5152, 0xa831c66d, 0xb00327c8, 0xbf597fc7, 0xc6e00bf3, 0xd5a79147, 0x06ca6351, 0x14292967,
  0x27b70a85, 0x2e1b2138, 0x4d2c6dfc, 0x53380d13, 0x650a7354, 0x766a0abb, 0x81c2c92e, 0x92722c85,
  0xa2bfe8a1, 0xa81a664b, 0xc24b8b70, 0xc76c51a3, 0xd192e819, 0xd6990624, 0xf40e3585, 0x106aa070,
  0x19a4c116, 0x1e376c08, 0x2748774c, 0x34b0bcb5, 0x391c0cb3, 0x4ed8aa4a, 0x5b9cca4f, 0x682e6ff3,
  0x748f82ee, 0x78a5636f, 0x84c87814, 0x8cc70208, 0x90befffa, 0xa4506ceb, 0xbef9a3f7, 0xc67178f2]

def rotate (x : UInt32) (n : UInt32) : UInt32 :=
  (x >>> n) ||| (x <<< (32 - n))

def State.round (s : State) (key word : UInt32) : State :=
  let mix := rotate s.e 6 ^^^ rotate s.e 11 ^^^ rotate s.e 25
  let choice := (s.e &&& s.f) ^^^ (~~~s.e &&& s.g)
  let first := s.h + mix + choice + key + word
  let turn := rotate s.a 2 ^^^ rotate s.a 13 ^^^ rotate s.a 22
  let majority := (s.a &&& s.b) ^^^ (s.a &&& s.c) ^^^ (s.b &&& s.c)
  ⟨first + (turn + majority), s.a, s.b, s.c, s.d + first, s.e, s.f, s.g⟩

/-- The word after sixteen words of the schedule, the newest first. -/
def nextWord (recent : List UInt32) : UInt32 :=
  let older := recent.getD 14 0
  let newer := recent.getD 1 0
  let s0 := rotate older 7 ^^^ rotate older 18 ^^^ (older >>> 3)
  let s1 := rotate newer 17 ^^^ rotate newer 19 ^^^ (newer >>> 10)
  recent.getD 15 0 + s0 + recent.getD 6 0 + s1

/-- `count` more rounds and words, with the latest sixteen words of the schedule, newest first. -/
def schedule (recent : List UInt32) : Nat → List UInt32
  | 0 => recent
  | count + 1 => schedule (nextWord recent :: recent) count

def compress (s : State) (block : List UInt32) : State :=
  let words := (schedule block.reverse 48).reverse
  s.add ((roundConstants.zip words).foldl (fun t (key, word) => t.round key word) s)

/-- The big-endian words of a list of bytes. -/
def wordsOf : List UInt8 → List UInt32
  | a :: b :: c :: d :: rest =>
    (a.toUInt32 <<< 24 ||| b.toUInt32 <<< 16 ||| c.toUInt32 <<< 8 ||| d.toUInt32) :: wordsOf rest
  | _ => []

/-- The eight big-endian bytes of a length in bits. -/
def lengthBytes (bits : Nat) : List UInt8 :=
  [56, 48, 40, 32, 24, 16, 8, 0].map fun shift => UInt8.ofNat (bits >>> shift)

/-- A message filled up to a whole number of blocks of sixty-four bytes. -/
def pad (message : List UInt8) : List UInt8 :=
  let gap := (119 - message.length % 64) % 64
  message ++ 0x80 :: List.replicate gap 0 ++ lengthBytes (8 * message.length)

def absorb (s : State) : Nat → List UInt32 → State
  | 0, _ => s
  | blocks + 1, words => absorb (compress s (words.take 16)) blocks (words.drop 16)

def digest (message : List UInt8) : State :=
  let words := wordsOf (pad message)
  absorb .start (words.length / 16) words

def hexDigit (n : UInt32) : Char :=
  Nat.digitChar (n &&& 0xF).toNat

def hexWord (w : UInt32) : List Char :=
  ([28, 24, 20, 16, 12, 8, 4, 0] : List UInt32).map fun shift => hexDigit (w >>> shift)

def hex (message : List UInt8) : String :=
  String.ofList ((digest message).words.flatMap hexWord)

end KnowledgeSchema.Sha256
