/-! # The SHA-256 digest

Selectors are derived from names by this digest, read as one big-endian number. -/

namespace OwnershipRegistry.Sha256

/-- The round constants. -/
def roundConstants : List UInt32 := [
    0x428a2f98, 0x71374491, 0xb5c0fbcf, 0xe9b5dba5, 0x3956c25b, 0x59f111f1, 0x923f82a4, 0xab1c5ed5,
    0xd807aa98, 0x12835b01, 0x243185be, 0x550c7dc3, 0x72be5d74, 0x80deb1fe, 0x9bdc06a7, 0xc19bf174,
    0xe49b69c1, 0xefbe4786, 0x0fc19dc6, 0x240ca1cc, 0x2de92c6f, 0x4a7484aa, 0x5cb0a9dc, 0x76f988da,
    0x983e5152, 0xa831c66d, 0xb00327c8, 0xbf597fc7, 0xc6e00bf3, 0xd5a79147, 0x06ca6351, 0x14292967,
    0x27b70a85, 0x2e1b2138, 0x4d2c6dfc, 0x53380d13, 0x650a7354, 0x766a0abb, 0x81c2c92e, 0x92722c85,
    0xa2bfe8a1, 0xa81a664b, 0xc24b8b70, 0xc76c51a3, 0xd192e819, 0xd6990624, 0xf40e3585, 0x106aa070,
    0x19a4c116, 0x1e376c08, 0x2748774c, 0x34b0bcb5, 0x391c0cb3, 0x4ed8aa4a, 0x5b9cca4f, 0x682e6ff3,
    0x748f82ee, 0x78a5636f, 0x84c87814, 0x8cc70208, 0x90befffa, 0xa4506ceb, 0xbef9a3f7, 0xc67178f2]

/-- The eight working words. -/
structure Words where
  a : UInt32
  b : UInt32
  c : UInt32
  d : UInt32
  e : UInt32
  f : UInt32
  g : UInt32
  h : UInt32

/-- The words before the first block. -/
def initial : Words :=
  ⟨0x6a09e667, 0xbb67ae85, 0x3c6ef372, 0xa54ff53a, 0x510e527f, 0x9b05688c, 0x1f83d9ab, 0x5be0cd19⟩

/-- Rotate right. -/
def rotate (x n : UInt32) : UInt32 := (x >>> n) ||| (x <<< (32 - n))

/-- One round with its constant and its schedule word. -/
def round (w : Words) (constant word : UInt32) : Words :=
  let sum1 := rotate w.e 6 ^^^ rotate w.e 11 ^^^ rotate w.e 25
  let choice := (w.e &&& w.f) ^^^ ((~~~w.e) &&& w.g)
  let t1 := w.h + sum1 + choice + constant + word
  let sum0 := rotate w.a 2 ^^^ rotate w.a 13 ^^^ rotate w.a 22
  let majority := (w.a &&& w.b) ^^^ (w.a &&& w.c) ^^^ (w.b &&& w.c)
  ⟨t1 + sum0 + majority, w.a, w.b, w.c, w.d + t1, w.e, w.f, w.g⟩

/-- The next schedule word from the sixteen before it, oldest first. -/
def nextWord : List UInt32 → UInt32
  | w0 :: w1 :: _ :: _ :: _ :: _ :: _ :: _ :: _ :: w9 :: _ :: _ :: _ :: _ :: w14 :: _ =>
    let s0 := rotate w1 7 ^^^ rotate w1 18 ^^^ (w1 >>> 3)
    let s1 := rotate w14 17 ^^^ rotate w14 19 ^^^ (w14 >>> 10)
    w0 + s0 + w9 + s1
  | _ => 0

/-- Run the rounds over the remaining constants; `window` holds the next sixteen words. -/
def rounds : List UInt32 → List UInt32 → Words → Words
  | [], _, w => w
  | k :: ks, window, w => rounds ks (window.drop 1 ++ [nextWord window]) (round w k (window.headD 0))

/-- The words of a block, big-endian. -/
def blockWords : List UInt8 → List UInt32
  | a :: b :: c :: d :: rest =>
    ((a.toUInt32 <<< 24) ||| (b.toUInt32 <<< 16) ||| (c.toUInt32 <<< 8) ||| d.toUInt32) :: blockWords rest
  | _ => []

/-- Absorb one block of 64 bytes. -/
def absorb (w : Words) (block : List UInt8) : Words :=
  let r := rounds roundConstants (blockWords block) w
  ⟨w.a + r.a, w.b + r.b, w.c + r.c, w.d + r.d, w.e + r.e, w.f + r.f, w.g + r.g, w.h + r.h⟩

/-- The big-endian bytes of a number, in a fixed width. -/
def bigEndian (width n : Nat) : List UInt8 :=
  (List.range width).map fun i => UInt8.ofNat (n / Nat.pow 256 (width - 1 - i))

/-- The message with its end mark, zeros, and its length in bits. -/
def padded (message : List UInt8) : List UInt8 :=
  let zeros := (119 - message.length % 64) % 64
  message ++ 0x80 :: List.replicate zeros 0 ++ bigEndian 8 (8 * message.length)

/-- Absorb a message block by block. -/
def absorbAll (w : Words) : Nat → List UInt8 → Words
  | 0, _ => w
  | blocks + 1, bytes => absorbAll (absorb w (bytes.take 64)) blocks (bytes.drop 64)

/-- The digest of a message, as one number below `2 ^ 256`. -/
def digest (message : List UInt8) : Nat :=
  let bytes := padded message
  let w := absorbAll initial (bytes.length / 64) bytes
  [w.a, w.b, w.c, w.d, w.e, w.f, w.g, w.h].foldl (fun acc x => acc * Nat.pow 2 32 + x.toNat) 0

end OwnershipRegistry.Sha256
