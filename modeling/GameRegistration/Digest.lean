/-! Digests of bytes and their text. SHA-1 pads a message to blocks of 64 bytes and folds them into
five 32-bit words. Base64 writes three bytes as four symbols and fills up a last group with `=`. -/
namespace GameRegistration.Digest

def rotateLeft (x n : UInt32) : UInt32 := (x <<< n) ||| (x >>> (32 - n))

/-- The most significant byte first. -/
def wordOfBytes (a b c d : UInt8) : UInt32 :=
  (a.toUInt32 <<< 24) ||| (b.toUInt32 <<< 16) ||| (c.toUInt32 <<< 8) ||| d.toUInt32

def bytesOfWord (w : UInt32) : List UInt8 :=
  [(w >>> 24).toUInt8, (w >>> 16).toUInt8, (w >>> 8).toUInt8, w.toUInt8]

def wordsOfBytes : List UInt8 → List UInt32
  | a :: b :: c :: d :: rest => wordOfBytes a b c d :: wordsOfBytes rest
  | _ => []

structure Sha1State where
  a : UInt32 := 0x67452301
  b : UInt32 := 0xEFCDAB89
  c : UInt32 := 0x98BADCFE
  d : UInt32 := 0x10325476
  e : UInt32 := 0xC3D2E1F0

namespace Sha1State

def add (s t : Sha1State) : Sha1State :=
  ⟨s.a + t.a, s.b + t.b, s.c + t.c, s.d + t.d, s.e + t.e⟩

def mix (s : Sha1State) (round : Nat) : UInt32 :=
  if round < 20 then ((s.b &&& s.c) ||| ((~~~s.b) &&& s.d)) + 0x5A827999
  else if round < 40 then (s.b ^^^ s.c ^^^ s.d) + 0x6ED9EBA1
  else if round < 60 then ((s.b &&& s.c) ||| (s.b &&& s.d) ||| (s.c &&& s.d)) + 0x8F1BBCDC
  else (s.b ^^^ s.c ^^^ s.d) + 0xCA62C1D6

def step (s : Sha1State) (round : Nat) (word : UInt32) : Sha1State :=
  ⟨rotateLeft s.a 5 + s.mix round + s.e + word, s.a, rotateLeft s.b 30, s.c, s.d⟩

def steps (s : Sha1State) : Nat → List UInt32 → Sha1State
  | _, [] => s
  | round, word :: words => (s.step round word).steps (round + 1) words

def bytes (s : Sha1State) : List UInt8 :=
  bytesOfWord s.a ++ bytesOfWord s.b ++ bytesOfWord s.c ++ bytesOfWord s.d ++ bytesOfWord s.e

theorem length_bytes (s : Sha1State) : s.bytes.length = 20 := rfl

end Sha1State

/-- Adds `n` words, each made of the 3rd, 8th, 14th and 16th before it. -/
def extendSchedule : Nat → Array UInt32 → Array UInt32
  | 0, words => words
  | n + 1, words =>
    let back (k : Nat) := words.getD (words.size - k) 0
    extendSchedule n (words.push (rotateLeft (back 3 ^^^ back 8 ^^^ back 14 ^^^ back 16) 1))

def compress (s : Sha1State) (block : List UInt8) : Sha1State :=
  s.add (s.steps 0 (extendSchedule 64 (wordsOfBytes block).toArray).toList)

/-- A one bit, zeros, and the length in bits as eight bytes: a multiple of 64 bytes in all. -/
def pad (message : List UInt8) : List UInt8 :=
  let zeros := (119 - message.length % 64) % 64
  let bits := UInt64.ofNat (8 * message.length)
  message ++ (0x80 :: List.replicate zeros (0 : UInt8)) ++
    bytesOfWord (bits >>> 32).toUInt32 ++ bytesOfWord bits.toUInt32

def blocks : Nat → List UInt8 → List (List UInt8)
  | 0, _ => []
  | n + 1, bytes => bytes.take 64 :: blocks n (bytes.drop 64)

def sha1 (message : List UInt8) : List UInt8 :=
  let padded := pad message
  ((blocks (padded.length / 64) padded).foldl compress {}).bytes

theorem length_sha1 (message : List UInt8) : (sha1 message).length = 20 :=
  Sha1State.length_bytes _

def base64Symbol (n : Nat) : Char :=
  if n < 26 then Char.ofNat (65 + n)
  else if n < 52 then Char.ofNat (71 + n)
  else if n < 62 then Char.ofNat (n - 4)
  else if n = 62 then '+'
  else '/'

def base64 : List UInt8 → List Char
  | [] => []
  | [a] =>
    let n := a.toNat * 16
    [base64Symbol (n / 64), base64Symbol (n % 64), '=', '=']
  | [a, b] =>
    let n := (a.toNat * 256 + b.toNat) * 4
    [base64Symbol (n / 4096), base64Symbol (n / 64 % 64), base64Symbol (n % 64), '=']
  | a :: b :: c :: rest =>
    let n := (a.toNat * 256 + b.toNat) * 256 + c.toNat
    base64Symbol (n / 262144) :: base64Symbol (n / 4096 % 64) :: base64Symbol (n / 64 % 64) ::
      base64Symbol (n % 64) :: base64 rest

end GameRegistration.Digest
