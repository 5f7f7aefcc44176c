import DexLens.Text.Basic

/-! # Checksums and digests

Digests work on blocks of 64 bytes, the last ones padded with one set bit, zeros and the length in bits.
-/

namespace DexLens.Digest

open Bytes List

variable (bs : Bytes) (block : Array UInt32) (ws : List UInt32) (w : Array UInt32) (x n : UInt32)

/-! ## Checksums -/

def adler32 : Nat :=
 let (a, b) := bs.foldl (fun (a, b) x => let a := (a + x.toNat) % 65521; (a, (b + a) % 65521)) (1, 0)
 b * 65536 + a

/-! ## Padding and words -/

def paddingFor (n : Nat) : Bytes := 0x80 :: replicate ((119 - n % 64) % 64) 0

def paddedBig : Bytes := bs ++ paddingFor bs.length ++ (ofNatLE 8 (8 * bs.length)).reverse

def paddedLittle : Bytes := bs ++ paddingFor bs.length ++ ofNatLE 8 (8 * bs.length)

def wordsBig : Bytes -> List UInt32
 | a :: b :: c :: d :: rest => .ofNat (toNatLE [d, c, b, a]) :: wordsBig rest
 | _ => []

def wordsLittle : Bytes -> List UInt32
 | a :: b :: c :: d :: rest => .ofNat (toNatLE [a, b, c, d]) :: wordsLittle rest
 | _ => []

def blocks : List (Array UInt32) :=
 let rec go : Nat -> List UInt32 -> List (Array UInt32)
  | 0, _ => []
  | n + 1, ws => (ws.take 16).toArray :: go n (ws.drop 16)
 go (ws.length / 16) ws

def rotl : UInt32 := x <<< n ||| x >>> (32 - n)

def rotr : UInt32 := x >>> n ||| x <<< (32 - n)

def bytesBig : Bytes := ws.flatMap fun w => (ofNatLE 4 w.toNat).reverse

def bytesLittle : Bytes := ws.flatMap (ofNatLE 4 ·.toNat)

/-! ## MD5 -/

def md5Shifts : Array UInt32 :=
 #[#[7, 12, 17, 22], #[5, 9, 14, 20], #[4, 11, 16, 23], #[6, 10, 15, 21]].flatMap fun r => r ++ r ++ r ++ r

def md5Constants : Array UInt32 :=
 #[0xd76aa478, 0xe8c7b756, 0x242070db, 0xc1bdceee, 0xf57c0faf, 0x4787c62a, 0xa8304613, 0xfd469501,
  0x698098d8, 0x8b44f7af, 0xffff5bb1, 0x895cd7be, 0x6b901122, 0xfd987193, 0xa679438e, 0x49b40821,
  0xf61e2562, 0xc040b340, 0x265e5a51, 0xe9b6c7aa, 0xd62f105d, 0x02441453, 0xd8a1e681, 0xe7d3fbc8,
  0x21e1cde6, 0xc33707d6, 0xf4d50d87, 0x455a14ed, 0xa9e3e905, 0xfcefa3f8, 0x676f02d9, 0x8d2a4c8a,
  0xfffa3942, 0x8771f681, 0x6d9d6122, 0xfde5380c, 0xa4beea44, 0x4bdecfa9, 0xf6bb4b60, 0xbebfbc70,
  0x289b7ec6, 0xeaa127fa, 0xd4ef3085, 0x04881d05, 0xd9d4d039, 0xe6db99e5, 0x1fa27cf8, 0xc4ac5665,
  0xf4292244, 0x432aff97, 0xab9423a7, 0xfc93a039, 0x655b59c3, 0x8f0ccc92, 0xffeff47d, 0x85845dd1,
  0x6fa87e4f, 0xfe2ce6e0, 0xa3014314, 0x4e0811a1, 0xf7537e82, 0xbd3af235, 0x2ad7d2bb, 0xeb86d391]

structure Md5State where
 (a b c d : UInt32)

def md5Step (s : Md5State) (i : Nat) : Md5State :=
 let (f, g) :=
  if i < 16 then (s.b &&& s.c ||| ~~~ s.b &&& s.d, i)
  else if i < 32 then (s.d &&& s.b ||| ~~~ s.d &&& s.c, (5 * i + 1) % 16)
  else if i < 48 then (s.b ^^^ s.c ^^^ s.d, (3 * i + 5) % 16)
  else (s.c ^^^ (s.b ||| ~~~ s.d), 7 * i % 16)
 let x := s.a + f + md5Constants.getD i 0 + block.getD g 0
 ⟨s.d, s.b + rotl x (md5Shifts.getD i 0), s.b, s.c⟩

def md5Block (h : Md5State) (block : Array UInt32) : Md5State :=
 let s := (range 64).foldl (md5Step block) h
 ⟨h.a + s.a, h.b + s.b, h.c + s.c, h.d + s.d⟩

def md5 : Bytes :=
 let s := (blocks (wordsLittle (paddedLittle bs))).foldl md5Block
  ⟨0x67452301, 0xefcdab89, 0x98badcfe, 0x10325476⟩
 bytesLittle [s.a, s.b, s.c, s.d]

/-! ## SHA-1 -/

structure Sha1State where
 (a b c d e : UInt32)

def sha1Schedule : Array UInt32 :=
 (range' 16 64).foldl (fun w t =>
  w.push (rotl (w.getD (t - 3) 0 ^^^ w.getD (t - 8) 0 ^^^ w.getD (t - 14) 0 ^^^ w.getD (t - 16) 0) 1)) block

def sha1Round (s : Sha1State) (t : Nat) : Sha1State :=
 let (f, k) :=
  if t < 20 then (s.b &&& s.c ||| ~~~ s.b &&& s.d, 0x5a827999)
  else if t < 40 then (s.b ^^^ s.c ^^^ s.d, 0x6ed9eba1)
  else if t < 60 then (s.b &&& s.c ||| s.b &&& s.d ||| s.c &&& s.d, 0x8f1bbcdc)
  else (s.b ^^^ s.c ^^^ s.d, 0xca62c1d6)
 ⟨rotl s.a 5 + f + s.e + k + w.getD t 0, s.a, rotl s.b 30, s.c, s.d⟩

def sha1Block (h : Sha1State) (block : Array UInt32) : Sha1State :=
 let w := sha1Schedule block
 let s := (range 80).foldl (sha1Round w) h
 ⟨h.a + s.a, h.b + s.b, h.c + s.c, h.d + s.d, h.e + s.e⟩

def sha1 : Bytes :=
 let s := (blocks (wordsBig (paddedBig bs))).foldl sha1Block
  ⟨0x67452301, 0xefcdab89, 0x98badcfe, 0x10325476, 0xc3d2e1f0⟩
 bytesBig [s.a, s.b, s.c, s.d, s.e]

/-! ## SHA-256 -/

def sha256Constants : Array UInt32 :=
 #[0x428a2f98, 0x71374491, 0xb5c0fbcf, 0xe9b5dba5, 0x3956c25b, 0x59f111f1, 0x923f82a4, 0xab1c5ed5,
  0xd807aa98, 0x12835b01, 0x243185be, 0x550c7dc3, 0x72be5d74, 0x80deb1fe, 0x9bdc06a7, 0xc19bf174,
  0xe49b69c1, 0xefbe4786, 0x0fc19dc6, 0x240ca1cc, 0x2de92c6f, 0x4a7484aa, 0x5cb0a9dc, 0x76f988da,
  0x983e5152, 0xa831c66d, 0xb00327c8, 0xbf597fc7, 0xc6e00bf3, 0xd5a79147, 0x06ca6351, 0x14292967,
  0x27b70a85, 0x2e1b2138, 0x4d2c6dfc, 0x53380d13, 0x650a7354, 0x766a0abb, 0x81c2c92e, 0x92722c85,
  0xa2bfe8a1, 0xa81a664b, 0xc24b8b70, 0xc76c51a3, 0xd192e819, 0xd6990624, 0xf40e3585, 0x106aa070,
  0x19a4c116, 0x1e376c08, 0x2748774c, 0x34b0bcb5, 0x391c0cb3, 0x4ed8aa4a, 0x5b9cca4f, 0x682e6ff3,
  0x748f82ee, 0x78a5636f, 0x84c87814, 0x8cc70208, 0x90befffa, 0xa4506ceb, 0xbef9a3f7, 0xc67178f2]

def sha256Schedule : Array UInt32 :=
 (range' 16 48).foldl (fun w t =>
  let x := w.getD (t - 15) 0
  let y := w.getD (t - 2) 0
  let s0 := rotr x 7 ^^^ rotr x 18 ^^^ x >>> 3
  let s1 := rotr y 17 ^^^ rotr y 19 ^^^ y >>> 10
  w.push (w.getD (t - 16) 0 + s0 + w.getD (t - 7) 0 + s1)) block

def sha256Round (s : List UInt32) (t : Nat) : List UInt32 :=
 match s with
 | [a, b, c, d, e, f, g, h] =>
  let s1 := rotr e 6 ^^^ rotr e 11 ^^^ rotr e 25
  let ch := e &&& f ^^^ ~~~ e &&& g
  let t1 := h + s1 + ch + sha256Constants.getD t 0 + w.getD t 0
  let s0 := rotr a 2 ^^^ rotr a 13 ^^^ rotr a 22
  let maj := a &&& b ^^^ a &&& c ^^^ b &&& c
  [t1 + s0 + maj, a, b, c, d + t1, e, f, g]
 | s => s

def sha256Block (h : List UInt32) (block : Array UInt32) : List UInt32 :=
 let w := sha256Schedule block
 zipWith (· + ·) h ((range 64).foldl (sha256Round w) h)

def sha256 : Bytes :=
 bytesBig ((blocks (wordsBig (paddedBig bs))).foldl sha256Block
  [0x6a09e667, 0xbb67ae85, 0x3c6ef372, 0xa54ff53a, 0x510e527f, 0x9b05688c, 0x1f83d9ab, 0x5be0cd19])

end DexLens.Digest
