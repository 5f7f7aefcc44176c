import DexLens.Dex.File

/-! # Reading code again and again

From the sixth reading on, or the second one of code that is long, instructions are decoded before the first is
handed out, and kept.
-/

namespace DexLens.Dex

open Code

/-- Code that is decoded from a start on. -/
structure Strip where
 odex : Bool
 units : Nat
 bytes : Bytes
 start : Nat := 0

/-- The instructions that a reading hands out, and the failure that ends it. -/
abbrev Reading := List Instr × Option Fault

def Strip.fresh (s : Strip) : Reading := sweep s.odex s.units s.bytes s.start

/-- Code with what is remembered of its readings. -/
structure Tape extends Strip where
 reads : Nat := 0
 kept : List Instr := []

namespace Tape

variable (t : Tape)

def setBytes (bs : Bytes) : Tape := { t with bytes := bs, units := bs.length }

def setStart (n : Nat) : Tape := { t with start := n }

/-- Instructions that were decoded before a failure are kept, though they are not handed out. -/
def read : Reading × Tape :=
 if t.kept ≠ [] then ((t.kept, none), t)
 else if 5 ≤ t.reads then
  match t.fresh with
  | (is, some cause) => (([], cause), { t with kept := is })
  | (is, none) => ((is, none), { t with kept := is })
 else (t.fresh, { t with reads := if 1000 ≤ t.units then 5 else t.reads + 1 })

end Tape

abbrev Playback := ExceptT Fault (StateM Tape)

namespace Playback

def reading : Playback Reading := modifyGetThe Tape Tape.read

/-- The number of the instruction at an offset. -/
def place? (off : Int) (nb at' : Nat) : List Instr -> Option Nat
 | [] => none
 | i :: is => if at' = off then nb else place? off (nb + 1) (at' + i.length) is

/-- The number and the instruction at an offset. Instructions are read only as far as needed. -/
def find (off : Int) : Playback (Option (Nat × Instr)) := do
 let (is, fault) <- reading
 match (place? off 0 0 is).bind fun n => (is[n]?).map (n, ·), fault with
 | some found, _ => return found
 | none, some cause => throw cause
 | none, none => return none

/-- The number of the instruction at an offset, -1 if none stands there. -/
def position (off : Int) : Playback Int := do
 match <- find off with
 | some (n, _) => return n
 | none => return -1

def all : Playback (List Instr) := do
 match <- reading with
 | (_, some cause) => throw cause
 | (is, none) => return is

/-- The instruction of a number, or at the offset given beside it. -/
def pick (idx : Int) (off : Option Int) : Playback Instr := do
 let n <- match off with
  | some o => position o
  | none => pure idx
 Res.opt .beyond (atPosition? (<- all).toArray n)

end Playback

def CodeItem.tape (c : CodeItem) (odex : Bool) : Tape := ⟨⟨odex, c.units, c.bytes, 0⟩, c.reads, c.kept⟩

end DexLens.Dex
