import SchemaMigration.Name
import SchemaMigration.Text.Numeral

/-!
# Lock names

One lock for each tracking table, so that whoever writes the same table waits for the others. The
server takes names of at most 64 characters; a longer one is replaced by a digest of it.
-/

namespace SchemaMigration

/-!
## Digests

SHA-256 as total functions on lists of words. A digest is eight words, so its text is always 64
digits.
-/

namespace Sha256

/-- The first 32 bits of the fractions of the cube roots of the first 64 primes. -/
def roundConstants : List UInt32 :=
  [0x428a2f98, 0x71374491, 0xb5c0fbcf, 0xe9b5dba5, 0x3956c25b, 0x59f111f1, 0x923f82a4, 0xab1c5ed5,
    0xd807aa98, 0x12835b01, 0x243185be, 0x550c7dc3, 0x72be5d74, 0x80deb1fe, 0x9bdc06a7, 0xc19bf174,
    0xe49b69c1, 0xefbe4786, 0x0fc19dc6, 0x240ca1cc, 0x2de92c6f, 0x4a7484aa, 0x5cb0a9dc, 0x76f988da,
    0x983e5152, 0xa831c66d, 0xb00327c8, 0xbf597fc7, 0xc6e00bf3, 0xd5a79147, 0x06ca6351, 0x14292967,
    0x27b70a85, 0x2e1b2138, 0x4d2c6dfc, 0x53380d13, 0x650a7354, 0x766a0abb, 0x81c2c92e, 0x92722c85,
    0xa2bfe8a1, 0xa81a664b, 0xc24b8b70, 0xc76c51a3, 0xd192e819, 0xd6990624, 0xf40e3585, 0x106aa070,
    0x19a4c116, 0x1e376c08, 0x2748774c, 0x34b0bcb5, 0x391c0cb3, 0x4ed8aa4a, 0x5b9cca4f, 0x682e6ff3,
    0x748f82ee, 0x78a5636f, 0x84c87814, 0x8cc70208, 0x90befffa, 0xa4506ceb, 0xbef9a3f7, 0xc67178f2]

/-- The words that every block is mixed into. After the last block they are the digest. -/
structure State where
  (a b c d e f g h : UInt32)

/-- The first 32 bits of the fractions of the square roots of the first eight primes. -/
def State.initial : State :=
  ⟨0x6a09e667, 0xbb67ae85, 0x3c6ef372, 0xa54ff53a, 0x510e527f, 0x9b05688c, 0x1f83d9ab, 0x5be0cd19⟩

def State.add (s t : State) : State :=
  ⟨s.a + t.a, s.b + t.b, s.c + t.c, s.d + t.d, s.e + t.e, s.f + t.f, s.g + t.g, s.h + t.h⟩

def State.words (s : State) : List UInt32 := [s.a, s.b, s.c, s.d, s.e, s.f, s.g, s.h]

def rotateRight (x n : UInt32) : UInt32 := x >>> n ||| x <<< (32 - n)

/-! ## One block -/

/-- One round with one constant and one word of the schedule. -/
def State.round (s : State) (constant word : UInt32) : State :=
  let choice := (s.e &&& s.f) ^^^ (~~~s.e &&& s.g)
  let majority := (s.a &&& s.b) ^^^ (s.a &&& s.c) ^^^ (s.b &&& s.c)
  let fromE := rotateRight s.e 6 ^^^ rotateRight s.e 11 ^^^ rotateRight s.e 25
  let fromA := rotateRight s.a 2 ^^^ rotateRight s.a 13 ^^^ rotateRight s.a 22
  let mixed := s.h + fromE + choice + constant + word
  ⟨mixed + (fromA + majority), s.a, s.b, s.c, s.d + mixed, s.e, s.f, s.g⟩

/-- The word that follows sixteen words of the schedule. -/
def nextWord (window : List UInt32) : UInt32 :=
  let w1 := window.getD 1 0
  let w14 := window.getD 14 0
  let small0 := rotateRight w1 7 ^^^ rotateRight w1 18 ^^^ w1 >>> 3
  let small1 := rotateRight w14 17 ^^^ rotateRight w14 19 ^^^ w14 >>> 10
  small1 + window.getD 9 0 + small0 + window.getD 0 0

/-- One round for each constant. The window moves along the schedule, one word a round. -/
def rounds : List UInt32 → List UInt32 → State → State
  | [], _, s => s
  | constant :: constants, window, s =>
    rounds constants (window.tail ++ [nextWord window]) (s.round constant (window.getD 0 0))

def State.mix (s : State) (block : List UInt32) : State := s.add (rounds roundConstants block s)

/-! ## A whole message -/

/-- A one bit, zeros up to a whole number of blocks, and the length in bits. -/
def padding (length : Nat) : List UInt8 :=
  0x80 :: List.replicate ((119 - length % 64) % 64) 0 ++
    [56, 48, 40, 32, 24, 16, 8, 0].map fun shift => UInt8.ofNat (length * 8 / twoTo shift)

/-- Four bytes make a word, the first one highest. -/
def wordsOfBytes : List UInt8 → List UInt32
  | a :: b :: c :: d :: rest =>
    UInt32.ofNat (((a.toNat * 256 + b.toNat) * 256 + c.toNat) * 256 + d.toNat) :: wordsOfBytes rest
  | _ => []

def State.mixAll (s : State) (words : List UInt32) : State :=
  if words.length < 16 then s
  else (s.mix (words.take 16)).mixAll (words.drop 16)
termination_by words.length
decreasing_by simp; omega

def digest (message : List UInt8) : List UInt32 :=
  (State.initial.mixAll (wordsOfBytes (message ++ padding message.length))).words

def hexDigest (message : List UInt8) : List Char :=
  (digest message).flatMap fun word => hexDigits 8 word.toNat

theorem length_hexDigest (message : List UInt8) : (hexDigest message).length = 64 := by
  have h (n : Nat) : (hexDigits 8 n).length = 8 := by simp [hexDigits]
  simp [hexDigest, digest, State.words, h]

example : String.ofList (hexDigest "abc".toUTF8.toList) =
    "ba7816bf8f01cfea414140de5dae2223b00361a396177a9cb410ff61f20015ad" := by
  decide +kernel

end Sha256

/-! ## Names -/

def lockNameStart : String := "libschema_"

/-- How many characters the server takes. -/
def maxLockNameLength : Nat := 64

/-- What the start of a name leaves for the table. -/
def lockNameRoom : Nat := maxLockNameLength - lockNameStart.length

/-- The name of the lock of a table. Names that fit stay readable. -/
def QualifiedName.lockName (table : TrackingTable) : String :=
  if table.text.utf8ByteSize ≤ lockNameRoom then lockNameStart ++ table.text
  else
    lockNameStart ++ String.ofList ((Sha256.hexDigest table.text.toUTF8.toList).take lockNameRoom)

end SchemaMigration
