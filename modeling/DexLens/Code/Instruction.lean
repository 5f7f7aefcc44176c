import DexLens.Text.Basic
import DexLens.Code.Opcode

/-! # Instructions

An instruction is decoded by the layout of its opcode. Payloads of switches and array fills stand in the code like
instructions.
-/

namespace DexLens.Code

open Bytes

inductive Instr where
 | f10x (op : Nat)
 | f10t (op : Nat) (off : Int)
 | f11n (op a : Nat) (lit : Int)
 | f11x (op a : Nat)
 | f12x (op a b : Nat)
 | f20t (op : Nat) (off : Int)
 | f20bc (op a b : Nat)
 | f21c (op a idx : Nat)
 | f21h (op a : Nat) (lit : Int)
 | f21s (op a : Nat) (lit : Int)
 | f21t (op a : Nat) (off : Int)
 | f22b (op a b : Nat) (lit : Int)
 | f22c (op a b idx : Nat)
 | f22s (op a b : Nat) (lit : Int)
 | f22t (op a b : Nat) (off : Int)
 | f22x (op a b : Nat)
 | f23x (op a b c : Nat)
 | f30t (op : Nat) (off : Int)
 | f31c (op a idx : Nat)
 | f31i (op a : Nat) (lit : Int)
 | f31t (op a : Nat) (off : Int)
 | f32x (op a b : Nat)
 /-- Up to five registers; `bare` layouts show nothing at all when there is no register. -/
 | f35c (op count idx c d e f g : Nat) (bare : Bool)
 | f3rc (op count idx first : Nat)
 | f40sc (op idx a : Nat)
 | f41c (op idx a : Nat)
 | f51l (op a : Nat) (lit : Int)
 | f52c (op idx a b : Nat)
 | f5rc (op idx count first : Nat)
 /-- Targets of a switch over keys in a row; `size` is the number that the payload declares. -/
 | packedSwitch (size : Nat) (firstKey : Int) (dsts : List Int)
 | sparseSwitch (size : Nat) (keys dsts : List Int)
 /-- Elements for an array: `data` holds one byte more than the elements take, if there is one. -/
 | arrayData (width size : Nat) (data : Bytes)
 /-- An opcode that is not part of the instruction set. -/
 | fail (op : Nat)
 | unresolved (data : Bytes)

namespace Instr

variable (b : UInt8) (n : Nat) (a b c d : UInt8) (lo hi : UInt8) (i : Int)

def u16 : Nat := lo.toNat + 256 * hi.toNat

def s8 : Int := toIntLE [b]

def s16 : Int := toIntLE [lo, hi]

def u32 : Nat := toNatLE [a, b, c, d]

def s32 : Int := toIntLE [a, b, c, d]

def low : Nat := b.toNat % 16

def high : Nat := b.toNat / 16

def decode? : Format -> Bytes -> Option Instr
 | .f10x, o :: _ :: _ => some (f10x o.toNat)
 | .f10t, o :: x :: _ => some (f10t o.toNat (s8 x))
 | .f11n, o :: x :: _ => some (f11n o.toNat (low x) (.fdiv (s8 x) 16))
 | .f11x, o :: x :: _ => some (f11x o.toNat x.toNat)
 | .f12x, o :: x :: _ => some (f12x o.toNat (low x) (high x))
 | .f20t, o :: _ :: b :: c :: _ => some (f20t o.toNat (s16 b c))
 | .f20bc, o :: x :: b :: c :: _ => some (f20bc o.toNat x.toNat (u16 b c))
 | .f21c, o :: x :: b :: c :: _ => some (f21c o.toNat x.toNat (u16 b c))
 | .f21h, o :: x :: b :: c :: _ => some (f21h o.toNat x.toNat (s16 b c))
 | .f21s, o :: x :: b :: c :: _ => some (f21s o.toNat x.toNat (s16 b c))
 | .f21t, o :: x :: b :: c :: _ => some (f21t o.toNat x.toNat (s16 b c))
 | .f22b, o :: x :: b :: c :: _ => some (f22b o.toNat x.toNat b.toNat (s8 c))
 | .f22c, o :: x :: b :: c :: _ | .f22cs, o :: x :: b :: c :: _ => some (f22c o.toNat (low x) (high x) (u16 b c))
 | .f22s, o :: x :: b :: c :: _ => some (f22s o.toNat (low x) (high x) (s16 b c))
 | .f22t, o :: x :: b :: c :: _ => some (f22t o.toNat (low x) (high x) (s16 b c))
 | .f22x, o :: x :: b :: c :: _ => some (f22x o.toNat x.toNat (u16 b c))
 | .f23x, o :: x :: b :: c :: _ => some (f23x o.toNat x.toNat b.toNat c.toNat)
 | .f30t, o :: _ :: b :: c :: d :: e :: _ => some (f30t o.toNat (s32 b c d e))
 | .f31c, o :: x :: b :: c :: d :: e :: _ => some (f31c o.toNat x.toNat (u32 b c d e))
 | .f31i, o :: x :: b :: c :: d :: e :: _ => some (f31i o.toNat x.toNat (s32 b c d e))
 | .f31t, o :: x :: b :: c :: d :: e :: _ => some (f31t o.toNat x.toNat (s32 b c d e))
 | .f32x, o :: _ :: b :: c :: d :: e :: _ => some (f32x o.toNat (u16 b c) (u16 d e))
 | .f35c, bs => five false bs
 | .f35mi, bs | .f35ms, bs => five true bs
 | .f3rc, bs | .f3rmi, bs | .f3rms, bs => range bs
 | .f40sc, o :: p :: b :: c :: d :: e :: x :: y :: _ => some (f40sc (u16 o p) (u32 b c d e) (u16 x y))
 | .f41c, o :: p :: b :: c :: d :: e :: x :: y :: _ => some (f41c (u16 o p) (u32 b c d e) (u16 x y))
 | .f51l, o :: x :: b :: c :: d :: e :: f :: g :: h :: i :: _ =>
  some (f51l o.toNat x.toNat (toIntLE [b, c, d, e, f, g, h, i]))
 | .f52c, o :: p :: b :: c :: d :: e :: x :: y :: z :: w :: _ =>
  some (f52c (u16 o p) (u32 b c d e) (u16 x y) (u16 z w))
 | .f5rc, o :: p :: b :: c :: d :: e :: x :: y :: z :: w :: _ =>
  some (f5rc (u16 o p) (u32 b c d e) (u16 x y) (u16 z w))
 | _, _ => none
where
 five bare : Bytes -> Option Instr
  | o :: x :: b :: c :: d :: e :: _ =>
   some (f35c o.toNat (high x) (u16 b c) (low d) (high d) (low e) (high e) (low x) bare)
  | _ => none
 range : Bytes -> Option Instr
  | o :: x :: b :: c :: d :: e :: _ => some (f3rc o.toNat x.toNat (u16 b c) (u16 d e))
  | _ => none

def words? : Nat -> Bytes -> Option (List Int × Bytes)
 | 0, bs => some ([], bs)
 | count + 1, a :: b :: c :: d :: rest => (words? count rest).map fun (ws, rest') => (s32 a b c d :: ws, rest')
 | _ + 1, _ => none

/-- When the declared size cannot fit, the number of targets is taken from the bytes that are left. -/
def packedSwitch? : Bytes -> Option Instr
 | bs@(_ :: _ :: s :: t :: a :: b :: c :: d :: rest) =>
  let size := u16 s t
  let count := if size * 4 > bs.length then bs.length - 16 else size
  (words? count rest).map fun (dsts, _) => packedSwitch size (s32 a b c d) dsts
 | _ => none

def sparseSwitch? : Bytes -> Option Instr
 | _ :: _ :: s :: t :: rest => do
  let size := u16 s t
  let (keys, rest') <- words? size rest
  let (dsts, _) <- words? size rest'
  return sparseSwitch size keys dsts
 | _ => none

def arrayData? : Bytes -> Option Instr
 | _ :: _ :: w :: x :: a :: b :: c :: d :: rest =>
  let width := u16 w x
  let size := u32 a b c d
  some (arrayData width size (rest.take (size * width + 1)))
 | _ => none

def payload? (op : Nat) (bs : Bytes) : Option Instr :=
 if op = 0x100 then packedSwitch? bs
 else if op = 0x200 then sparseSwitch? bs
 else arrayData? bs

def b2 : Bytes := ofNatLE 2 n

def i2 : Bytes := ofIntLE 2 i

def b4 : Bytes := ofNatLE 4 n

def i4 : Bytes := ofIntLE 4 i

def b1 : UInt8 := .ofNat n

def halves (lo hi : Nat) : UInt8 := .ofNat (lo + 16 * hi)

def raw : Instr -> Bytes
 | f10x op => b2 op
 | f10t op off => b1 op :: ofIntLE 1 off
 | f11n op a lit => [b1 op, halves a (lit % 16).toNat]
 | f11x op a => [b1 op, b1 a]
 | f12x op a b => [b1 op, halves a b]
 | f20t op off => b2 op ++ i2 off
 | f20bc op a b => b1 op :: b1 a :: b2 b
 | f21c op a idx => b1 op :: b1 a :: b2 idx
 | f21h op a lit | f21s op a lit => b1 op :: b1 a :: i2 lit
 | f21t op a off => b1 op :: b1 a :: i2 off
 | f22b op a b lit => b1 op :: b1 a :: b1 b :: ofIntLE 1 lit
 | f22c op a b idx => b1 op :: halves a b :: b2 idx
 | f22s op a b lit => b1 op :: halves a b :: i2 lit
 | f22t op a b off => b1 op :: halves a b :: i2 off
 | f22x op a b => b1 op :: b1 a :: b2 b
 | f23x op a b c => [b1 op, b1 a, b1 b, b1 c]
 | f30t op off => b2 op ++ i4 off
 | f31c op a idx => b1 op :: b1 a :: b4 idx
 | f31i op a lit => b1 op :: b1 a :: i4 lit
 | f31t op a off => b1 op :: b1 a :: i4 off
 | f32x op a b => b2 op ++ b2 a ++ b2 b
 | f35c op count idx c d e f g _ => b1 op :: halves g count :: (b2 idx ++ [halves c d, halves e f])
 | f3rc op count idx first => b1 op :: b1 count :: (b2 idx ++ b2 first)
 | f40sc op idx a | f41c op idx a => b2 op ++ b4 idx ++ b2 a
 | f51l op a lit => b1 op :: b1 a :: ofIntLE 8 lit
 | f52c op idx a b => b2 op ++ b4 idx ++ b2 a ++ b2 b
 | f5rc op idx count first => b2 op ++ b4 idx ++ b2 count ++ b2 first
 | packedSwitch size firstKey dsts => b2 0x100 ++ b2 size ++ i4 firstKey ++ dsts.flatMap i4
 | sparseSwitch size keys dsts => b2 0x200 ++ b2 size ++ keys.flatMap i4 ++ dsts.flatMap i4
 | arrayData width size data => b2 0x300 ++ b2 width ++ b4 size ++ data
 | fail op => b2 op
 | unresolved data => data

def length : Instr -> Nat
 | f10x _ | f10t _ _ | f11n _ _ _ | f11x _ _ | f12x _ _ _ => 2
 | f30t _ _ | f31c _ _ _ | f31i _ _ _ | f31t _ _ _ | f32x _ _ _ | f35c _ _ _ _ _ _ _ _ _ | f3rc _ _ _ _ => 6
 | f40sc _ _ _ => 8
 | f41c _ _ _ => 8
 | f51l _ _ _ | f52c _ _ _ _ | f5rc _ _ _ _ => 10
 | packedSwitch size _ _ => 8 + size * 4
 | sparseSwitch size _ _ => 4 + size * 4 * 2
 | arrayData width size _ => ((size * width + 1) / 2 + 4) * 2
 | fail _ => 2
 | unresolved data => data.length
 | _ => 4

def op : Instr -> Int
 | f10x op | f10t op _ | f11n op _ _ | f11x op _ | f12x op _ _ | f20t op _ | f20bc op _ _
 | f21c op _ _ | f21h op _ _ | f21s op _ _ | f21t op _ _ | f22b op _ _ _ | f22c op _ _ _
 | f22s op _ _ _ | f22t op _ _ _ | f22x op _ _ | f23x op _ _ _ | f30t op _ | f31c op _ _
 | f31i op _ _ | f31t op _ _ | f32x op _ _ | f35c op _ _ _ _ _ _ _ _ | f3rc op _ _ _
 | f40sc op _ _ | f41c op _ _ | f51l op _ _ | f52c op _ _ _ | f5rc op _ _ _ => op
 | packedSwitch _ _ _ => 0x100
 | sparseSwitch _ _ _ => 0x200
 | arrayData _ _ _ => 0x300
 | fail op => op
 | unresolved _ => -1

def index? : Instr -> Option Nat
 | f21c _ _ idx | f22c _ _ _ idx | f31c _ _ idx | f35c _ _ idx _ _ _ _ _ _ | f3rc _ _ idx _
 | f40sc _ idx _ | f41c _ idx _ | f52c _ idx _ _ | f5rc _ idx _ _ => some idx
 | _ => none

def branch? : Instr -> Option Int
 | f10t _ off | f20t _ off | f21t _ _ off | f22t _ _ _ off | f30t _ off | f31t _ _ off => some off
 | _ => none

def literal? : Instr -> Option Int
 | f11n _ _ lit | f21h _ _ lit | f21s _ _ lit | f22b _ _ _ lit | f22s _ _ _ lit | f31i _ _ lit
 | f51l _ _ lit => some lit
 | _ => none

def keys : Instr -> List Int
 | packedSwitch _ firstKey dsts => (List.range dsts.length).map fun (i : Nat) => firstKey + i
 | sparseSwitch _ ks _ => ks
 | _ => []

def dsts : Instr -> List Int
 | packedSwitch _ _ ts => ts
 | sparseSwitch _ _ ts => ts
 | _ => []

def isSwitchPayload : Instr -> Bool
 | packedSwitch _ _ _ | sparseSwitch _ _ _ => true
 | _ => false

def isPayload : Instr -> Bool
 | packedSwitch _ _ _ | sparseSwitch _ _ _ | arrayData _ _ _ => true
 | _ => false

end Instr

end DexLens.Code
