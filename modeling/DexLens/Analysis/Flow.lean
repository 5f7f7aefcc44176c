import DexLens.Dex.Members

/-! # Basic blocks

Code is cut into blocks before every target of a branch and after every branch.
-/

namespace DexLens.Analysis

open Code Dex Text

/-- A handler: the type it catches, where it starts, and the block that holds that place. -/
structure Handler where
 name : String
 addr : Nat
 block : Option Nat

structure Guard where
 (start stop : Int)
 handlers : List Handler

/-- A way from one block to another: offset of the branch, offset of its target, and the block. -/
structure Link where
 (first second : Int)
 block : Nat

structure Block where
 title : String
 (start stop count lastLength : Nat)
 /-- The payloads that instructions of the block refer to, by the offset of the instruction. -/
 payloads : List (Nat × Option Instr)
 (next prev : List Link)
 guard : Option Nat

instance : Inhabited Block := (⟨"", 0, 0, 0, 0, [], [], [], none⟩)

structure Flow where
 blocks : Array Block
 guards : Array Guard

instance : Inhabited Flow := (⟨#[], #[]⟩)

abbrev Located := List (Nat × Instr)

namespace Flow

def located (start : Nat) : List Instr -> Located
 | [] => []
 | i :: is => (start, i) :: located (start + i.length) is

variable (code : Located) (d : File)

def insAt? (off : Int) : Option Instr := (code.find? (·.1 = off)).map (·.2)

def isBranchName (name : String) : Bool :=
 startsWith name "throw" || startsWith name "goto" || startsWith name "return" ||
  startsWith name "if" && name.length > 2 || name == "packed-switch" || name == "sparse-switch"

def succs (idx : Nat) (ins : Instr) : Res (List Int) := do
 let op := ins.op
 let off := 2 * ins.branch?.getD 0
 if op = 0x27 || (0x0e ≤ op && op ≤ 0x11) then return [-1]
 else if 0x28 ≤ op && op ≤ 0x2a then return [off + idx]
 else if 0x32 ≤ op && op ≤ 0x3d then return [idx + ins.length, off + idx]
 else if op = 0x2b || op = 0x2c then
  match insAt? code (off + idx) with
  | none => return [((idx + ins.length : Nat) : Int)]
  | some data =>
   if data.isSwitchPayload then return ((idx + ins.length : Nat) : Int) :: data.dsts.map (2 * · + idx)
   else throw .noPart
 else return []

def branches (code all : Located) : Res (List (Nat × List Int)) := do
 let found <- code.mapM fun (idx, ins) => do
  if isBranchName (<- ins.name) then return (idx, <- succs all idx ins) else return none
 return found.filterMap id

def guardAt (hs : CatchHandlers) (off : Nat) (t : TryItem) : Res Guard := do
 let h <- .opt .beyond (hs.entries.find? (·.offset = off))
 let every := match h.catchAll with
  | some a => [⟨"any", 2 * a, none⟩]
  | none => []
 let typed <- h.typed.mapM fun (ty, addr) => return (⟨<- d.type ty, 2 * addr, none⟩ : Handler)
 return ⟨2 * t.start, 2 * (t.start + t.count : Nat) - 1, every ++ typed⟩

def guardsOf (c : CodeItem) : Res (List Guard) := do
 match c.handlers with
 | none => return []
 | some hs =>
  if c.triesSize = 0 then return []
  let offs := (c.tries.map (·.handlerOff + hs.offset)).eraseDups
  let lists <- offs.mapM fun off => (c.tries.filter (·.handlerOff + hs.offset = off)).mapM (guardAt d hs off)
  return lists.flatten

def blank (title : String) (start : Nat) : Block :=
 { (default : Block) with
  title := title ++ "-BB@0x" ++ hexNat start, start, stop := start }

end Flow

namespace Block

def push (all : Located) (b : Block) (ins : Instr) : Block :=
 let idx := b.stop
 let op := ins.op
 let b := { b with count := b.count + 1, lastLength := ins.length, stop := idx + ins.length }
 if op = 0x26 || op = 0x2b || op = 0x2c then
  match ins.branch? with
  | some off => { b with payloads := b.payloads ++ [(idx, Flow.insAt? all (idx + 2 * off))] }
  | none => b
 else b

def payload? (b : Block) (idx : Nat) : Option Instr := (b.payloads.lookup idx).join

def code (b : Block) (all : Located) : Located := all.filter fun p => b.start ≤ p.1 && p.1 < b.stop

end Block

namespace Flow

variable (bs : Array Block) (d : File)

def cut (title : String) (dsts : List Int) (ends : List Nat) (all : Located) : Located -> Block -> List Block
 | [], b => if b.count = 0 then [] else [b]
 | (idx, ins) :: rest, b =>
  if dsts.contains idx && b.count ≠ 0 then
   let b' := (blank title b.stop).push all ins
   b :: if ends.contains idx then b' :: cut title dsts ends all rest (blank title b'.stop)
    else cut title dsts ends all rest b'
  else
   let b' := b.push all ins
   if ends.contains idx then b' :: cut title dsts ends all rest (blank title b'.stop)
   else cut title dsts ends all rest b'

def blockAt? (off : Int) : Option Nat := bs.findIdx? fun b => b.start ≤ off && off < b.stop

def nextOf (ends : List (Nat × List Int)) (b : Block) : List Link :=
 let from' := (b.stop : Int) - b.lastLength
 match (ends.lookup (b.stop - b.lastLength)).getD [] with
 | [] =>
  match blockAt? bs (b.stop + 1) with
  | some i => [⟨from', b.stop, i⟩]
  | none => []
 | dsts =>
  dsts.filterMap fun t =>
   if t = -1 then none
   else (blockAt? bs t).map fun i => ⟨from', t, i⟩

def withPrev : Array Block :=
 bs.toList.zipIdx.foldl (fun acc (b, i) =>
  b.next.foldl (fun acc l =>
   acc.modify l.block fun c => { c with prev := c.prev ++ [⟨l.second, l.first, i⟩] }) acc) bs

def guardFor? (gs : Array Guard) (start stop : Int) : Option Nat :=
 gs.findIdx? fun g => g.start ≥ start && g.stop ≤ stop || stop ≤ g.stop && start ≥ g.start

def ofCode (title : String) (c : CodeItem) : Res Flow := do
 let all := located 0 (<- c.decoded)
 let ends <- branches all all
 let gs <- guardsOf d c
 let dsts := ends.flatMap (·.2) ++ gs.flatMap fun g => g.start :: g.handlers.map (·.addr)
 let bs := (cut title dsts (ends.map (·.1)) all all (blank title 0)).toArray
 let bs := withPrev (bs.map fun b => { b with next := nextOf bs ends b })
 let gs := (gs.map fun g =>
  { g with handlers := g.handlers.map fun h => { h with block := blockAt? bs h.addr } }).toArray
 return ⟨bs.map fun b => { b with guard := guardFor? gs b.start (b.stop - 1) }, gs⟩

def ofMethod (r : MRef) : Res Flow :=
 match d.codeOf? r with
 | some c => ofCode d (d.methodAt r).title c
 | none => .ok default

end Flow

end DexLens.Analysis
