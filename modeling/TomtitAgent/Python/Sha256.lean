import TomtitAgent.Python.Str

/-!
# SHA-256

`sha256 b` is `hashlib.sha256(b).hexdigest()`.  Words are naturals below `2^32`, so the kernel
evaluates the rounds on numerals.

* `pad`   the message as whole blocks of 64 bytes;
* `schedule`, `compress`   one block: the 64 expanded words and the 64 rounds;
* `sha256_hex`   a digest is 64 lower-case hexadecimal digits;
* `NoCollision x y`   the two messages are not a collision.

No function onto 64 digits is injective, so what a result assumes of SHA-256 is `NoCollision` of
the messages it compares.
-/

namespace Py

abbrev Bytes := ByteArray

namespace Sha256

def rotr (n x : Nat) : Nat := (x >>> n) ||| ((x <<< (32 - n)) % 2^32)

def roundConstants : List Nat :=
  [0x428a2f98, 0x71374491, 0xb5c0fbcf, 0xe9b5dba5, 0x3956c25b, 0x59f111f1, 0x923f82a4, 0xab1c5ed5,
   0xd807aa98, 0x12835b01, 0x243185be, 0x550c7dc3, 0x72be5d74, 0x80deb1fe, 0x9bdc06a7, 0xc19bf174,
   0xe49b69c1, 0xefbe4786, 0x0fc19dc6, 0x240ca1cc, 0x2de92c6f, 0x4a7484aa, 0x5cb0a9dc, 0x76f988da,
   0x983e5152, 0xa831c66d, 0xb00327c8, 0xbf597fc7, 0xc6e00bf3, 0xd5a79147, 0x06ca6351, 0x14292967,
   0x27b70a85, 0x2e1b2138, 0x4d2c6dfc, 0x53380d13, 0x650a7354, 0x766a0abb, 0x81c2c92e, 0x92722c85,
   0xa2bfe8a1, 0xa81a664b, 0xc24b8b70, 0xc76c51a3, 0xd192e819, 0xd6990624, 0xf40e3585, 0x106aa070,
   0x19a4c116, 0x1e376c08, 0x2748774c, 0x34b0bcb5, 0x391c0cb3, 0x4ed8aa4a, 0x5b9cca4f, 0x682e6ff3,
   0x748f82ee, 0x78a5636f, 0x84c87814, 0x8cc70208, 0x90befffa, 0xa4506ceb, 0xbef9a3f7, 0xc67178f2]

structure Words where
  (a b c d e f g h : Nat)

def initial : Words :=
  ⟨0x6a09e667, 0xbb67ae85, 0x3c6ef372, 0xa54ff53a,
   0x510e527f, 0x9b05688c, 0x1f83d9ab, 0x5be0cd19⟩

/-- Big-endian bytes of `n`, `width` of them. -/
def bytesOf : Nat → Nat → List Nat
  | 0, _ => []
  | width + 1, n => bytesOf width (n / 256) ++ [n % 256]

/-- The message, the bit `1`, zeros, and the bit length as eight bytes. -/
def pad (m : List Nat) : List Nat :=
  m ++ 128 :: (List.replicate ((119 - m.length % 64) % 64) 0 ++ bytesOf 8 (8 * m.length))

def blockWords : List Nat → List Nat
  | a :: b :: c :: d :: rest => (((a * 256 + b) * 256 + c) * 256 + d) :: blockWords rest
  | _ => []

/-- The words of a block, last word first, extended by `n` more. -/
def extend : Nat → List Nat → List Nat
  | 0, ws => ws
  | n + 1, ws =>
    let s0 := rotr 7 (ws.getD 14 0) ^^^ rotr 18 (ws.getD 14 0) ^^^ (ws.getD 14 0 >>> 3)
    let s1 := rotr 17 (ws.getD 1 0) ^^^ rotr 19 (ws.getD 1 0) ^^^ (ws.getD 1 0 >>> 10)
    extend n ((ws.getD 15 0 + s0 + ws.getD 6 0 + s1) % 2^32 :: ws)

def schedule (block : List Nat) : List Nat := (extend 48 (blockWords block).reverse).reverse

def round (v : Words) (kw : Nat × Nat) : Words :=
  let s1 := rotr 6 v.e ^^^ rotr 11 v.e ^^^ rotr 25 v.e
  let ch := (v.e &&& v.f) ^^^ ((2^32 - 1 - v.e) &&& v.g)
  let t1 := v.h + s1 + ch + kw.1 + kw.2
  let s0 := rotr 2 v.a ^^^ rotr 13 v.a ^^^ rotr 22 v.a
  let maj := (v.a &&& v.b) ^^^ (v.a &&& v.c) ^^^ (v.b &&& v.c)
  ⟨(t1 + s0 + maj) % 2^32, v.a, v.b, v.c, (v.d + t1) % 2^32, v.e, v.f, v.g⟩

def compress (s : Words) (block : List Nat) : Words :=
  let v := (roundConstants.zip (schedule block)).foldl round s
  ⟨(s.a + v.a) % 2^32, (s.b + v.b) % 2^32, (s.c + v.c) % 2^32, (s.d + v.d) % 2^32,
   (s.e + v.e) % 2^32, (s.f + v.f) % 2^32, (s.g + v.g) % 2^32, (s.h + v.h) % 2^32⟩

def blocks : Nat → List Nat → Words → Words
  | 0, _, s => s
  | n + 1, m, s => blocks n (m.drop 64) (compress s (m.take 64))

def hexWords (s : Words) : PyStr :=
  [s.a, s.b, s.c, s.d, s.e, s.f, s.g, s.h].flatMap (hexText 8)

end Sha256

/-- `hashlib.sha256(b).hexdigest()` -/
def sha256 (b : Bytes) : PyStr :=
  let m := Sha256.pad (b.data.toList.map UInt8.toNat)
  Sha256.hexWords (Sha256.blocks (m.length / 64) m Sha256.initial)

example : sha256 ⟨#[97, 98, 99]⟩ =
    py "ba7816bf8f01cfea414140de5dae2223b00361a396177a9cb410ff61f20015ad" := by
  rw [py_ofList]
  rfl

theorem sha256_hex (b : Bytes) : exactRe isHex 64 (sha256 b) = true := by
  unfold sha256 Sha256.hexWords exactRe
  rw [Bool.and_eq_true, List.all_eq_true, decide_eq_true_eq]
  constructor
  · intro c hc
    obtain ⟨w, _, hw⟩ := List.mem_flatMap.mp hc
    exact hexText_isHex 8 w c hw
  · simp only [List.flatMap_cons, List.flatMap_nil, List.length_append, List.length_nil,
      hexText_length]

/-- The two messages are not a collision of SHA-256. -/
def NoCollision (x y : Bytes) : Prop := sha256 x = sha256 y → x = y

theorem NoCollision.eq_iff {x y : Bytes} (h : NoCollision x y) : sha256 x = sha256 y ↔ x = y :=
  ⟨h, fun e => by rw [e]⟩

end Py
