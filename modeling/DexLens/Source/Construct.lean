import DexLens.Analysis.Flow
import DexLens.Source.Graph
import DexLens.Source.Lower

/-! # From basic blocks to the graph of a method -/

namespace DexLens.Source

open Analysis Code Dex

structure Ground where
 file : File
 frame : Frame
 flow : Flow
 code : Located

namespace Ground

variable (w : Ground)

def statements (w : Ground) (b : Analysis.Block) : Analysis.Located -> Results -> Res (List Statement × Results)
 | [], st => .ok ([], st)
 | (idx, ins) :: rest, st => do
  let (s, st) <- lower w.file w.frame (b.payload? idx) st ins
  let (ss, st) <- w.statements b rest st
  return (s.toList ++ ss, st)

def endingOf (op : Int) : Ending :=
 if 0x0e ≤ op && op ≤ 0x11 then .giveBack
 else if op = 0x2b || op = 0x2c then .choice
 else if 0x32 ≤ op && op ≤ 0x3d then .condition
 else if op = 0x27 then .throwing
 else .plain

def blockOf (b : Analysis.Block) (st : Results) : Res (Block × Results) := do
 let code := b.code w.code
 let (ss, st) <- w.statements b code st
 let some (idx, ins) := code.getLast? | throw .unbound
 let op := ins.op
 let ending := endingOf op
 let shape := match ending with
  | .plain => .plain
  | .giveBack => .giveBack
  | .throwing => .throwing
  | .condition => .condition
  | .choice => .choice (b.payload? idx)
 let ss := if 0x28 ≤ op && op ≤ 0x2a then ss.dropLast else ss
 let made := Block.make b.title shape ending (ss.map fun s => ⟨0, s⟩)
 return ({ made with jump := ins.branch?.getD 0 }, st)

/-- A graph under construction: which basic blocks have their block already. -/
structure Draft where
 graph : Graph
 known : List (Nat × Nat)
 results : Results

def reach (t : Draft) (i : Nat) : Res (Nat × Draft) := do
 if let some n := t.known.lookup i then return (n, t)
 else
  let (b, st) <- w.blockOf (w.flow.blocks.getD i default) t.results
  let (n, g) := t.graph.create b
  return (n, ⟨g, t.known ++ [(i, n)], st⟩)

/-- A condition leads to the target of its branch when it holds, else to the other block. -/
def join (from' : Analysis.Block) (n : Nat) (t : Draft) (l : Analysis.Link) : Res Draft := do
 let (m, t) <- w.reach t l.block
 let g := t.graph.addEdge n m
 let dst := (from'.stop : Int) / 2 - (from'.lastLength : Int) / 2 + (g.block n).jump
 let start := ((w.flow.blocks.getD l.block default).start : Int) / 2
 let g := match (g.block n).ending with
  | .choice => g.alter n fun b => { b with cases := b.cases ++ [m] }
  | .condition =>
   if dst = start then g.alter n fun b => { b with onTrue := some m }
   else g.alter n fun b => { b with onFalse := some m }
  | _ => g
 return { t with graph := g }

def closeBranch (b : Block) : Block := if b.ending = .condition && b.onFalse.isNone then { b with onFalse := b.onTrue } else b

def spread (w : Ground) : Nat -> List Nat -> List Nat -> Draft -> Res Draft
 | 0, _, _, t => .ok t
 | _, [], _, t => .ok t
 | fuel + 1, i :: queue, seen, t => do
  let b := w.flow.blocks.getD i default
  let (n, t) <- w.reach t i
  let t <- b.next.foldlM (w.join b n) t
  let t := { t with graph := (t.graph.alter n closeBranch).addNode n }
  let (queue, seen) := b.next.foldl (fun (queue, seen) l =>
   if seen.contains l.block then (queue, seen) else (queue ++ [l.block], l.block :: seen)) (queue, seen)
  w.spread fuel queue seen t

def exitOf (g : Graph) : Option Nat :=
 match g.net.nodes.filter fun n => (g.block n).ending == .giveBack with
 | [] => none
 | [n] => some n
 | _ => g.order.getLast?

def construct : Res Graph := do
 let g := (<- w.spread (w.flow.blocks.size + 1) [0] [0] ⟨default, [], default⟩).graph.reorder.numberLines
 return { g with exit := exitOf g }

end Ground

end DexLens.Source

/-! # Putting blocks in order

Conditions get blocks of their own, and blocks that follow each other become one.
-/

namespace DexLens.Source

namespace Graph

variable (g : Graph) (n s : Nat)

def redirect (p old new dst : Nat) : Graph :=
 let b := g.block p
 if b.ending != .condition then g
 else g.alter dst fun t =>
  { t with
   onTrue := if b.onTrue = old then new else t.onTrue
   onFalse := if b.onFalse = old then new else t.onFalse }

/-- Split a condition that has statements before it: those go into a block of their own. -/
def splitBlock (moves : Moves) (n : Nat) : Graph × Moves :=
 let b := g.block n
 let body := { (Block.make (b.name ++ "-pre") .plain .plain b.lines.dropLast).takeFrom b with ending := .plain }
 let test := { (Block.make (b.name ++ "-cond") .condition .condition (b.lines.drop (b.lines.length - 1))).takeFrom b
  with onTrue := b.onTrue, onFalse := b.onFalse }
 let (pre, g) := g.create body
 let (cond, g) := g.create test
 let moves := moves.put n pre
 let g := (g.net.preds n).foldl (fun g p =>
  let dst := if p = n then cond else moves.of p
  (g.redirect p n pre dst).addEdge dst pre) g
 let g := (g.net.succs n).foldl (fun g s => g.addEdge cond (moves.of s)) g
 let g := if g.entry = n then { g with entry := pre } else g
 let g := ((g.addNode pre).addNode cond).addEdge pre cond
 let g := (g.renew pre moves).renew cond moves
 (g.removeNode n, moves)

def splitConditions : Graph :=
 let (g, moves, others) := g.net.nodes.foldl (fun (g, moves, others) n =>
  let b := g.block n
  if b.ending == .condition then
   if b.lines.length > 1 then
    let (g, moves) := g.splitBlock moves n
    (g, moves, others)
   else (g, moves, others)
  else (g, moves, others ++ [n])) (g, ([] : Moves), ([] : List Nat))
 others.foldl (·.renew · moves) g

def bypass : Graph :=
 let g := (g.net.preds n).foldl (fun g p => (g.renew p [(n, s)]).addEdge p s) g
 let g := if g.entry = n then { g with entry := s } else g
 g.removeNode n

def absorb : Res Graph := do
 let g := g.alter n fun b => { b with lines := b.lines ++ (g.block s).lines }
 let t :: _ := g.net.succs s | throw .beyond
 return (g.addEdge n t).removeNode s

/-- Take a block out if it is empty, let it absorb its follower if nothing else leads there. -/
def simplifyAt (g : Graph × Bool) (n : Nat) : Res (Graph × Bool) := do
 let (g, changed) := g
 if (g.block n).ending != .plain || !g.net.nodes.contains n then return (g, changed)
 let s :: _ := g.net.succs n | return (g, changed)
 if (g.block n).lines.isEmpty then if n = s then return (g, changed) else return (g.bypass n s, true)
 else if (g.block s).ending == .plain && (g.net.preds s).length = 1 && n != s && s != g.entry then
  return (<- g.absorb n s, true)
 else return (g, changed)

def simplifyLoop : Nat -> Graph -> Res Graph
 | 0, _ => .error .endless
 | fuel + 1, g => do
  let (g, changed) <- g.net.nodes.foldlM simplifyAt (g, false)
  if changed then simplifyLoop fuel g else return g

def simplify : Res Graph := simplifyLoop (g.net.nodes.length + 2) g

end Graph

end DexLens.Source
