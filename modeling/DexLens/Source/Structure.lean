import DexLens.Source.Graph
import DexLens.Source.Interval

/-! # Finding structure

Which blocks form loops, which conditions belong together, and where branches and switches end.
-/

namespace DexLens.Source.Graph

variable (g : Graph) (doms : Dominators) (n : Nat) (nodes : List Nat) (t : Joining)

def known (n : Option Nat) : Res Nat := .opt .noPart n

def greatest : List Nat -> Option Nat
 | [] => none
 | n :: ns => some (ns.foldl (fun best m => if g.num m > g.num best then m else best) n)

def mergesBelow (m : Option Nat) : List Nat := (doms.filter fun (n, d) => d == m && (g.net.preds n).length > 1).map (·.1)

def backwards : List Nat := g.net.postorder g.entry

/-- One target more than there are keys is where the switch goes when no key fits. -/
def orderCases (b : Block) : Res Block := do
 let .choice (some payload) := b.shape | .error .noPart
 if payload.isSwitchPayload then
  let values := payload.keys
  let (fallback, cases) := match b.cases with
   | c :: rest => if values.length < b.cases.length then (some c, rest) else (b.fallback, c :: rest)
   | [] => (b.fallback, [])
  let keys := (values.zip cases).foldl (fun ks (v, n) =>
   if ks.any (·.1 == n) then ks.map fun p => if p.1 == n then (n, p.2 ++ [v]) else p
   else ks ++ [(n, [v])]) b.keys
  .ok { b with fallback, cases, keys }
 else .error .noPart

def choiceMeeting : Res (Option Nat) :=
 (g.net.succs n).foldlM (fun m s => do
  if (<- doms.of s) = n then return m else Dominators.common g.num doms n s) n

def findChoices : Res Graph := do
 let (g, _) <- g.backwards.foldlM (fun (g, open') n => do
  if (g.block n).ending != .choice then return (g, open')
  let m <- g.choiceMeeting doms n
  let (g, open') := if let some f := g.greatest (g.mergesBelow doms m) then
    ((n :: open').foldl (fun (g : Graph) x =>
     g.alter x fun b => { b with follow := { b.follow with choice := f } }) g, [])
   else (g, n :: open')
  let b <- orderCases (g.block n)
  return (g.alter n fun _ => b, open')) (g, ([] : List Nat))
 return g

def loopBody (g : Graph) (lo hi : Nat) (blob : List Nat) : Nat -> List Nat -> Nat -> List Nat
 | 0, found, _ => found
 | depth + 1, found, n =>
  if found.contains n then found
  else (g.net.preds n).foldl (fun found p =>
   if lo < g.num p && g.num p ≤ hi && blob.contains p then loopBody g lo hi blob depth found p else found)
   (found ++ [n])

def markLoop (head last : Site) (blob : List Nat) : Res (Graph × List Nat) := do
 let latch <- known last.last
 let h := head.head
 let body := g.loopBody (g.num h) (g.num latch) blob g.net.depth [h] latch
 return (g.alter h fun b => { b with startsLoop := true, latch := latch }, body)

def findLoopsAt (first : Bool) (l : Level) (p : Partition) (g : Graph) : Res Graph := do
 let heads := l.order.filter p.isHead
 heads.foldlM (fun g head => do
  let home := p.home.lookup head
  let (g, body) <- (l.net.preds head).foldlM (fun (g, body) n => do
   match p.home.lookup n with
   | none => if first then return (g, body) else throw .noPart
   | some h =>
    if h = home then
     let blob := (Partition.siteOf l (p.intervals.getD h default)).blob
     let (g, more) <- g.markLoop (l.site head) (l.site n) blob
     return (g, body ++ more)
    else return (g, body)) (g, ([] : List Nat))
  return g.alter (l.site head).head fun b => { b with loopNodes := body.eraseDups }) g

def findLoops (levels : List (Level × Partition)) : Res Graph :=
 levels.zipIdx.foldlM (fun g ((l, p), i) => findLoopsAt (i == 0) l p g) g

/-- A graph in which conditions are joined: what was put in the place of what, and the dominators. -/
structure Joining where
 graph : Graph
 moves : Moves
 doms : Dominators
 done : List Nat

def merge (a b : Nat) (both turned : Bool) : Joining × Nat :=
 let g := t.graph
 let inA := g.net.preds a
 let outA := g.net.succs a
 let g := g.removeNode a
 let inB := g.net.preds b
 let outB := g.net.succs b
 let g := g.removeNode b
 let others (ns : List Nat) : List Nat := ns.eraseDups.filter fun n => n != a && n != b
 let ba := t.graph.block a
 let made := (Block.make s!"{ba.name}+{(t.graph.block b).name}" (.joined a b both turned) .condition []).takeFrom ba
 let (new, g) := g.create made
 let moves : Moves := t.moves.map fun (o, m) => if m = a || m = b then (o, new) else (o, m)
 let moves := (moves.put a new).put b new
 let doms := (t.doms.put new ((t.doms.lookup a).join)).filter fun p => p.1 != a && p.1 != b
 let g := g.addNode new
 let g := (others (inA ++ inB)).foldl (fun g p => (g.renew p moves).addEdge (moves.of p) new) g
 let g := (others (outA ++ outB)).foldl (fun g s => g.addEdge new (moves.of s)) g
 let g := if g.entry = a || g.entry = b then { g with entry := new } else g
 (⟨g, moves, doms, a :: b :: t.done⟩, new)

def lead (n : Nat) (onTrue onFalse : Option Nat) : Joining :=
 { t with graph := t.graph.alter n fun b => { b with onTrue, onFalse } }

def joinAt (st : Joining × Bool) (n : Nat) : Res (Joining × Bool) := do
 let (t, changed) := st
 let g := t.graph
 let b := g.block n
 let finish t changed := ({ t with done := n :: t.done }, changed)
 if b.ending != .condition || t.done.contains n then return finish t changed
 if b.onTrue = some n || b.onFalse = some n then return (t, changed)
 let yes <- known b.onTrue
 let alone m := (g.block m).ending == .condition && (g.net.preds m).length = 1
 if alone yes then
  let c := g.block yes
  if c.onFalse = b.onFalse then
   let (t, new) := merge t n yes true false
   return finish (lead t new c.onTrue b.onFalse) true
  else if c.onTrue = b.onFalse then
   let (t, new) := merge t n yes false true
   return finish (lead t new b.onFalse c.onFalse) true
  else return finish t changed
 else
  let no <- known b.onFalse
  if alone no then
   let c := g.block no
   if c.onFalse = yes then
    let (t, new) := merge t n no true true
    return finish (lead t new c.onTrue yes) true
   else if c.onTrue = yes then
    let (t, new) := merge t n no false false
    return finish (lead t new yes c.onFalse) true
   else return finish t changed
  else return finish t changed

def joinLoop : Nat -> Joining -> Res Joining
 | 0, _ => .error .endless
 | fuel + 1, t => do
  let (t, changed) <- t.graph.backwards.foldlM joinAt ({ t with done := [] }, false)
  if changed then joinLoop fuel { t with graph := t.graph.reorder } else return t

def movedDoms (m : Moves) : Dominators := doms.map fun (n, d) => (n, d.map m.of)

def findBranches : Graph × List Nat :=
 g.backwards.foldl (fun (g, open') n =>
  if (g.block n).ending != .condition then (g, open')
  else
   if let some f := g.greatest (g.mergesBelow doms (some n)) then
    let setBranch (g : Graph) x := g.alter x fun b => { b with follow := { b.follow with branch := some f } }
    let (now, later) := open'.partition fun x => g.num n < g.num x && g.num x < g.num f
    ((n :: now).foldl setBranch g, later)
   else (g, n :: open')) (g, [])

def wrapLoop (st : Graph × Moves × Bool) (n : Nat) : Graph × Moves × Bool :=
 let (g, moves, _) := st
 let b := g.block n
 if !b.startsLoop then st
 else
  let made := (Block.make b.name (.loop n) .condition []).takeFrom b
  let made := if b.ending == .condition then { made with onTrue := b.onTrue, onFalse := b.onFalse } else made
  let (new, g) := g.create made
  let moves := moves.put n new
  let g := (g.net.preds n).foldl (fun g p => g.addEdge (moves.of p) new) g
  let g := (g.net.succs n).foldl (fun g s => g.addEdge new (moves.of s)) g
  let g := if g.entry = n then { g with entry := new } else g
  ((g.addNode new).removeNode n, moves, true)

def wrapLoops (moves : Moves) : Graph × Moves :=
 let (g, moves, changed) := g.order.foldl wrapLoop (g, moves, false)
 (if changed then g.reorder else g, moves)

def inLoop : Option Nat -> Bool
 | some n => nodes.contains n
 | none => false

def loopKindOf (start last : Block) : LoopKind :=
 let inside := inLoop start.loopNodes start.onTrue && inLoop start.loopNodes start.onFalse
 if start.ending == .condition && !inside then .pretest
 else if last.ending == .condition then .posttest
 else .endless

def nearestOutside : Res (Option Nat) :=
 nodes.foldlM (fun best n => do
  let b := g.block n
  if b.ending != .condition then return best
  let nearer m := best.all (g.num m < g.num ·)
  let yes <- known b.onTrue
  if nearer yes && !nodes.contains yes then return yes
  let no <- known b.onFalse
  if nearer no && !nodes.contains no then return no
  return best) none

def finishLoop : Res Graph := do
 let start := g.block n
 let latch <- known start.latch
 let last := g.block latch
 let nodes := start.loopNodes
 let kind := loopKindOf start last
 let follow <- match kind with
  | .pretest => pure (if inLoop nodes start.onTrue then start.onFalse else start.onTrue)
  | .posttest => pure (if inLoop nodes last.onTrue then last.onFalse else last.onTrue)
  | .endless => nearestOutside g nodes
 let g := g.alter n fun b => { b with loopKind := kind }
 return (n :: nodes).foldl (fun g m => g.alter m fun b => { b with follow := { b.follow with loop := follow } }) g

def finishBranch : Graph :=
 let f := (g.block n).follow
 match f.loop, f.choice with
 | none, none => g
 | some a, none | none, some a => set a
 | some a, some b => set (if g.num b < g.num a then b else a)
where
 set a : Graph := g.alter n fun b => { b with follow := { b.follow with branch := some a } }

def findStructure : Res Graph := do
 let levels <- derivedSequence .oldest (.base g.net g.entry g.order)
 let g <- g.findChoices doms
 let g <- g.findLoops levels
 let t <- joinLoop (g.net.nodes.length + 2) ⟨g, [], doms, []⟩
 let (g, unresolved) := t.graph.findBranches (movedDoms t.doms t.moves)
 let (g, moves) := g.wrapLoops t.moves
 let order := g.order
 let g := order.foldl (·.renew · moves) g
 return unresolved.foldl finishBranch (<- (order.filter fun n => (g.block n).startsLoop).foldlM finishLoop g)

end DexLens.Source.Graph
