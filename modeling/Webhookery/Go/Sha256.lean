import Webhookery.Go.Encoding

/-!
# SHA-256 and HMAC

The hash of FIPS 180-4 and the keyed hash of RFC 2104 over it. Results about the program hold for
every pair of hash functions; this pair is the one its concrete runs evaluate with.
-/

namespace Webhookery.Go

/-- The cryptographic functions a program computes with. -/
structure Crypto where
  sha256 : Bytes → Bytes
  hmacSHA256 : Bytes → Bytes → Bytes

namespace Sha256

def word (n : Nat) : Nat := n % 4294967296

def rotr (x n : Nat) : Nat := x >>> n ||| word (x <<< (32 - n))

def roundConstants : List Nat :=
  [0x428a2f98, 0x71374491, 0xb5c0fbcf, 0xe9b5dba5, 0x3956c25b, 0x59f111f1, 0x923f82a4, 0xab1c5ed5,
   0xd807aa98, 0x12835b01, 0x243185be, 0x550c7dc3, 0x72be5d74, 0x80deb1fe, 0x9bdc06a7, 0xc19bf174,
   0xe49b69c1, 0xefbe4786, 0x0fc19dc6, 0x240ca1cc, 0x2de92c6f, 0x4a7484aa, 0x5cb0a9dc, 0x76f988da,
   0x983e5152, 0xa831c66d, 0xb00327c8, 0xbf597fc7, 0xc6e00bf3, 0xd5a79147, 0x06ca6351, 0x14292967,
   0x27b70a85, 0x2e1b2138, 0x4d2c6dfc, 0x53380d13, 0x650a7354, 0x766a0abb, 0x81c2c92e, 0x92722c85,
   0xa2bfe8a1, 0xa81a664b, 0xc24b8b70, 0xc76c51a3, 0xd192e819, 0xd6990624, 0xf40e3585, 0x106aa070,
   0x19a4c116, 0x1e376c08, 0x2748774c, 0x34b0bcb5, 0x391c0cb3, 0x4ed8aa4a, 0x5b9cca4f, 0x682e6ff3,
   0x748f82ee, 0x78a5636f, 0x84c87814, 0x8cc70208, 0x90befffa, 0xa4506ceb, 0xbef9a3f7, 0xc67178f2]

/-- The eight working variables. -/
structure State where
  (a b c d e f g h : Nat)

def initial : State :=
  ⟨0x6a09e667, 0xbb67ae85, 0x3c6ef372, 0xa54ff53a, 0x510e527f, 0x9b05688c, 0x1f83d9ab, 0x5be0cd19⟩

/-- The message schedule, latest word first. -/
def schedule : Nat → List Nat → List Nat
  | 0, ws => ws
  | n + 1, ws =>
    let x := ws.getD 14 0
    let y := ws.getD 1 0
    let s0 := rotr x 7 ^^^ rotr x 18 ^^^ x >>> 3
    let s1 := rotr y 17 ^^^ rotr y 19 ^^^ y >>> 10
    schedule n (word (ws.getD 15 0 + s0 + ws.getD 6 0 + s1) :: ws)

def round (s : State) (k w : Nat) : State :=
  let s1 := rotr s.e 6 ^^^ rotr s.e 11 ^^^ rotr s.e 25
  let ch := (s.e &&& s.f) ^^^ ((4294967295 - s.e) &&& s.g)
  let t1 := s.h + s1 + ch + k + w
  let s0 := rotr s.a 2 ^^^ rotr s.a 13 ^^^ rotr s.a 22
  let maj := (s.a &&& s.b) ^^^ (s.a &&& s.c) ^^^ (s.b &&& s.c)
  ⟨word (t1 + s0 + maj), s.a, s.b, s.c, word (s.d + t1), s.e, s.f, s.g⟩

def rounds : State → List Nat → List Nat → State
  | s, k :: ks, w :: ws => rounds (round s k w) ks ws
  | s, _, _ => s

def compress (s : State) (block : List Nat) : State :=
  let t := rounds s roundConstants (schedule 48 block.reverse).reverse
  ⟨word (s.a + t.a), word (s.b + t.b), word (s.c + t.c), word (s.d + t.d), word (s.e + t.e),
    word (s.f + t.f), word (s.g + t.g), word (s.h + t.h)⟩

def words : Bytes → List Nat
  | a :: b :: c :: d :: rest =>
    (((a.toNat * 256 + b.toNat) * 256 + c.toNat) * 256 + d.toNat) :: words rest
  | _ => []

/-- The big-endian bytes of `n`, `width` of them. -/
def bigEndian : Nat → Nat → Bytes
  | 0, _ => []
  | width + 1, n => UInt8.ofNat (n / 256 ^ width) :: bigEndian width n

def pad (msg : Bytes) : Bytes :=
  msg ++ 0x80 :: List.replicate ((119 - msg.length % 64) % 64) 0 ++ bigEndian 8 (msg.length * 8)

/-- Sixteen words at a time. -/
def blocks : Nat → State → List Nat → State
  | 0, s, _ => s
  | n + 1, s, ws => if ws.isEmpty then s else blocks n (compress s (ws.take 16)) (ws.drop 16)

def sum (msg : Bytes) : Bytes :=
  let ws := words (pad msg)
  let s := blocks (ws.length / 16) initial ws
  [s.a, s.b, s.c, s.d, s.e, s.f, s.g, s.h].flatMap (bigEndian 4)

def hmac (key msg : Bytes) : Bytes :=
  let key := if key.length > 64 then sum key else key
  let key := key ++ List.replicate (64 - key.length) 0
  sum (key.map (· ^^^ 0x5c) ++ sum (key.map (· ^^^ 0x36) ++ msg))

end Sha256

/-- The functions of `crypto/sha256` and `crypto/hmac`. -/
def Crypto.standard : Crypto := ⟨Sha256.sum, Sha256.hmac⟩

end Webhookery.Go
