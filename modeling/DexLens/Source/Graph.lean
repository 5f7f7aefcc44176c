import DexLens.Source.Net
import DexLens.Source.Statement

/-! # Graphs of blocks -/

namespace DexLens.Source

/-- A statement with its place in the numbering of the graph. -/
structure Line where
 loc : Nat
 code : Statement

inductive Ending where
 | plain | giveBack | throwing | choice | condition
 deriving DecidableEq, Inhabited

inductive Shape where
 | plain | giveBack | throwing
 | choice (payload : Option Code.Instr)
 | condition
 /-- Both conditions must hold or one of them; `turned` if the first is negated when it is written. -/
 | joined (first second : Nat) (both turned : Bool)
 | loop (body : Nat)
 deriving Inhabited

inductive LoopKind where
 | pretest | posttest | endless
 deriving DecidableEq

structure Follows where
 (branch loop choice : Option Nat)
 deriving Inhabited

structure Block where
 name : String
 shape : Shape
 ending : Ending
 lines : List Line
 /-- The places that were numbered for this block, up to but not including the second. -/
 range : Option (Nat × Nat)
 num : Nat
 follow : Follows
 loopKind : Option LoopKind
 startsLoop : Bool
 latch : Option Nat
 loopNodes : List Nat
 (onTrue onFalse : Option Nat)
 cases : List Nat
 fallback : Option Nat
 keys : List (Nat × List Int)
 jump : Int
 deriving Inhabited

namespace Block

def make (name : String) (shape : Shape) (ending : Ending) (lines : List Line) : Block :=
 { (default : Block) with name, shape, ending, lines }

def takeFrom (b old : Block) : Block :=
 { b with
  num := old.num, loopKind := old.loopKind, startsLoop := old.startsLoop, ending := old.ending,
  follow := old.follow, latch := old.latch, loopNodes := old.loopNodes }

def code (b : Block) : List Statement := b.lines.map Line.code

def ownLines (b : Block) : Res (List Line) :=
 match b.range with
 | some (first, stop) => .ok (b.lines.filter fun l => first ≤ l.loc && l.loc < stop)
 | none => .error .badKind

end Block

abbrev Moves := List (Nat × Nat)

def Moves.of (m : Moves) (n : Nat) : Nat := (m.lookup n).getD n

def Moves.put (m : Moves) (old new : Nat) : Moves := revise m old (fun _ => new) new

namespace Block

variable (b : Block)

def moveKeys (ks : List (Nat × List Int)) (old new : Nat) : List (Nat × List Int) :=
 match ks.lookup old with
 | none => ks
 | some v => revise (ks.filter (·.1 != old)) new (fun _ => v) v

def isConditional : Bool :=
 match b.shape with
 | .condition | .joined _ _ _ _ | .loop _ => true
 | _ => false

def isChoice : Bool :=
 match b.shape with
 | .choice _ => true
 | _ => false

/-- A block after others were moved. The block that a switch goes to when no key fits stays as it is. -/
def renew (m : Moves) : Block :=
 let at? n : Option Nat := n.map m.of
 let b := { b with
  latch := at? b.latch
  follow := ⟨at? b.follow.branch, at? b.follow.loop, at? b.follow.choice⟩
  loopNodes := (b.loopNodes.map m.of).eraseDups }
 let b := if b.isConditional then { b with onTrue := at? b.onTrue, onFalse := at? b.onFalse } else b
 if b.isChoice then
  { b with cases := b.cases.map m.of, keys := m.foldl (fun ks (old, new) => moveKeys ks old new) b.keys }
 else b

end Block

/-- A graph of blocks. The blocks are kept under their numbers, also those that the net has lost. -/
structure Graph where
 net : Net
 blocks : Array Block
 /-- The nodes in reverse postorder, as last determined. -/
 order : List Nat
 entry : Nat
 exit : Option Nat
 deriving Inhabited

namespace Graph

variable (g : Graph) (loc : Nat) (n : Nat)

def block : Block := g.blocks.getD n default

def num (g : Graph) (n : Nat) : Nat := (g.block n).num

def alter (f : Block -> Block) : Graph := { g with blocks := g.blocks.modify n f }

def create (b : Block) : Nat × Graph := (g.blocks.size, { g with blocks := g.blocks.push b })

def addNode (g : Graph) (n : Nat) : Graph := { g with net := g.net.addNode n }

def addEdge (g : Graph) (a b : Nat) : Graph := { g with net := g.net.addEdge a b }

def removeNode (g : Graph) (n : Nat) : Graph := { g with net := g.net.removeNode n, order := g.order.erase n }

def reorder : Graph :=
 let order := g.net.rpo g.entry
 let g := { g with order }
 order.zipIdx.foldl (fun g (n, i) => g.alter n fun b => { b with num := i + 1 }) g

def renewBlock (m : Moves) : Nat -> Graph -> Nat -> Graph
 | 0, g, _ => g
 | depth + 1, g, n =>
  let g := g.alter n (·.renew m)
  match (g.block n).shape with
  | .loop body => renewBlock m depth g body
  | _ => g

def renew (m : Moves) : Graph := renewBlock m (g.blocks.size + 1) g n

def numberLines : Graph :=
 (g.order.foldl (fun (g, next) n =>
  let count := (g.block n).lines.length
  (g.alter n fun b =>
   { b with
    lines := b.lines.zipIdx.map fun (l, i) => { l with loc := next + i }
    range := some (next, next + count) }, next + count)) (g, 0)).1

def blockAt? : Option Nat :=
 g.order.find? fun n =>
  match (g.block n).range with
  | some (first, stop) => first ≤ loc && loc < stop
  | none => false

def lineAt? : Option Statement := return (<- (g.block (<- g.blockAt? loc)).lines.find? (·.loc == loc)).code

/-- Change the lines of the block that a place belongs to. -/
def editLines (f : List Line -> List Line) : Graph :=
 match g.blockAt? loc with
 | some n => g.alter n fun b => { b with lines := f b.lines }
 | none => g

def setLine (s : Statement) : Graph :=
 g.editLines loc (·.map fun l => if l.loc == loc then { l with code := s } else l)

def removeLine : Graph := g.editLines loc (·.filter (·.loc != loc))

end Graph

end DexLens.Source
