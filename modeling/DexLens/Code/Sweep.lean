import DexLens.Fault
import DexLens.Code.Instruction

/-! # Linear sweep

Code is decoded from a start offset on, each instruction right after the one before it. In plain
code a cut-off instruction takes all the bytes that are left; optimized code has two-byte opcodes
of its own, which must be complete.
-/

namespace DexLens.Code

open Instr Opcode

namespace Sweep

variable (odex : Bool) (bs : Bytes)

def single : Instr :=
 match bs with
 | o :: _ :: _ =>
  if !odex && 0xe3 ≤ o.toNat && o.toNat ≤ 0xfe then .fail o.toNat
  else match main[o.toNat]? with
   | some info => (decode? info.format bs).getD (.unresolved bs)
   | none => .fail o.toNat
 | _ => .unresolved bs

def wide : Res (Option Instr) :=
 match bs with
 | o :: p :: _ =>
  let op := u16 o p
  if op = 0x100 || op = 0x200 || op = 0x300 then .ok (payload? op bs)
  else match extended? op with
   | some info => .ok (decode? info.format bs)
   | none =>
    match if odex then optimized? op else none with
    | some info => (Res.opt .cutOff (decode? info.format bs)).map some
    | none => .ok none
 | _ => .ok none

def next (left : Nat) (bs : Bytes) : Res Instr := do
 match bs with
 | o :: _ =>
  if (o = 0 || o = 0xff) && 2 < left then
   match <- wide odex bs with
   | some ins => return ins
   | none => return single odex bs
  else return single odex bs
 | [] => return .unresolved []

/-- Decode `left` bytes of code; the bytes may go on after them. What was decoded before a failure is kept. -/
def run (odex : Bool) : (fuel left : Nat) -> Bytes -> List Instr × Option Fault
 | 0, _, _ => ([], none)
 | fuel + 1, left, bs =>
  if left = 0 then ([], none)
  else match next odex left bs with
   | .error cause => ([], some cause)
   | .ok ins =>
    let (rest, fault) := run odex fuel (left - ins.length) (bs.drop ins.length)
    (ins :: rest, fault)

end Sweep

def sweep (odex : Bool) (units : Nat) (code : Bytes) (start : Nat) : List Instr × Option Fault :=
 let limit := min (2 * units) code.length
 Sweep.run odex (code.length + 1) (limit - start) (code.drop start)

end DexLens.Code
