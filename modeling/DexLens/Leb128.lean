import DexLens.Text.Basic

/-! # Variable-length numbers

Seven bits per byte, lowest first; the top bit says that another byte follows. The reader takes at most five bytes
and uses all eight bits of the fifth.
-/

namespace DexLens.Leb128

open UInt8

/-- Read an unsigned number of at most `more + 1` bytes, all bits of the last one counted. -/
def readWithin : (more : Nat) -> Bytes -> Option (Nat × Bytes)
 | _, [] => none
 | 0, b :: rest => some (b.toNat, rest)
 | more + 1, b :: rest =>
  if b.toNat < 128 then some (b.toNat, rest)
  else (readWithin more rest).map fun (high, rest') => (b.toNat % 128 + 128 * high, rest')

def readUnsigned (bs : Bytes) : Option (Nat × Bytes) := readWithin 4 bs

/-- A single byte: from 64 to 127 stands for -64 to -1, and a byte with its top bit set is taken as a two's-complement
    byte. -/
def readSigned : Bytes -> Option (Int × Bytes)
 | [] => none
 | b :: rest =>
  let n : Int := b.toNat
  some (if n < 64 then n else if n < 128 then n - 128 else n - 256, rest)

def readSignedByte : Bytes -> Option (Int × Bytes)
 | [] => none
 | b :: rest => some (if b.toNat < 128 then b.toNat else b.toNat - 256, rest)

def writeU (n : Nat) : Bytes :=
 if n < 128 then [ofNat n]
 else ofNat (n % 128 + 128) :: writeU (n / 128)

/-- Write the number as unsigned; of a negative number only its lowest seven bits are kept. -/
def writeUInt (v : Int) : Bytes := if v < 0 then [ofNat (v % 128).toNat] else writeU v.toNat

def writeS (v : Int) : Bytes :=
 if h : -64 ≤ v ∧ v < 64 then [ofNat (v % 128).toNat]
 else ofNat ((v % 128).toNat + 128) :: writeS (v / 128)
termination_by v.natAbs

/-- Read numbers until the bytes end, at most `count` of them, and say how many bytes are left. -/
def readMany {α : Type} (read : Bytes -> Option (α × Bytes)) : Nat -> Bytes -> Option (List α × Nat)
 | _, [] => some ([], 0)
 | 0, bs => some ([], bs.length)
 | count + 1, bs =>
  match read bs with
  | none => none
  | some (v, rest) => (readMany read count rest).map fun (vs, left) => (v :: vs, left)

end DexLens.Leb128
