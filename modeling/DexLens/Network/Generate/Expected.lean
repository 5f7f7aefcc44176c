import DexLens.Network.Generate.TwoSided

/-! # Random graphs with given or expected degrees, and graphs in space -/

namespace DexLens.Network

open Float Num

namespace Generate

variable (a : Args) (g : Graph)

/-! ## Expected degrees -/

def expectedRow (seq : Array Float) (n u first : Nat) (factor : Float) : Draw (List (Nat × Nat)) := do
 let share v := let p := seq.getD v 0 * factor; if p > 1 then 1 else p
 let mut v := first
 let mut p := share first
 let mut out := []
 for _ in [0:n + 1] do
  if n ≤ v || !p > 0 then break
  if p != 1 then
   let r <- random
   if r == 0 then throw .badVal
   let down := log (1 - p)
   if down == 0 then throw .byZero
   v := v + ((Decimal.floor? (log r / down)).getD 0).toNat
  if v < n then
   let q := share v
   if (<- random) < q / p then out := out ++ [(u, v)]
   v := v + 1
   p := q
 return out

def expected : Work Graph := do
 let n <- size (a 0)
 let g := numbered n false s!"empty_graph({n})" []
 let ws <- a.items 0
 if n = 0 then return g
 if (<- Value.greatest ws).same 0 then return g
 sow (a 1)
 let xs <- ws.mapM fun w => return (<- w.num).toFloat
 let total := (<- Value.sumOf ws).toFloat
 if total == 0 then throw .byZero
 let rho := 1.0 / total
 let order := xs.zipIdx.mergeSort (·.1 ≥ ·.1)
 let seq := (order.map (·.1)).toArray
 let names := (order.map (·.2)).toArray
 let loops := a.truth 2
 let last := if loops then n else n - 1
 let rows <- draw ((List.range last).mapM fun u =>
  expectedRow seq n u (if loops then u else u + 1) (seq.getD u 0 * rho))
 return g.addEdges (rows.flatten.map fun (u, v) => (names.getD u 0, names.getD v 0))

/-! ## Given degrees -/

structure Drawing where
 (degrees left : Table Num)
 graph : Graph
 half : Float
 top : Num

namespace Drawing

variable (s : Drawing) (u v : Value)

def degree (t : Drawing -> Table Num) (v : Value) : Num := (t s).getD v 0

def keepShare : Float := 1.0 - (s.degree degrees u * s.degree degrees v).toFloat / (4.0 * s.half)

def drawShare : Float :=
 let top := (s.left.values.foldl max 0).toFloat
 (s.degree left u * s.degree left v).toFloat / (top * top)

def use (t : Table Num) (v : Value) : Table Num :=
 let d := t.getD v 0
 if d == 1 then t.erase v else t.put v (d - 1)

def take : Drawing := { s with graph := s.graph.addEdge u v, left := use (use s.left u) v }

def sortedPair : Res (Value × Value) := return if <- Value.less v u then (v, u) else (u, v)

def byEnds : Draw Drawing := do
 let mut s := s
 for _ in [0:patience] do
  if (sum s.left.values).lt (2 * (s.top * s.top)) then return s
  if s.left.length < 2 then throw .badVal
  let mut found := []
  for _ in [0:patience] do
   if 2 ≤ found.length then break
   found := including found (<- Sequence.weighted s.left)
  let [x, y] := found | throw .endless
  let (u, v) <- sortedPair x y
  if !s.graph.hasEdge u v then if (<- random) < s.keepShare u v then s := s.take u v
 throw .endless

def byNodes : Draw Drawing := do
 let mut s := s
 for _ in [0:patience] do
  if lt (.int s.left.length) (2 * s.top) then return s
  let [x, y] <- .sample s.left.keys 2 | throw .badVal
  let (u, v) <- sortedPair x y
  if !s.graph.hasEdge u v then
   if (<- random) < s.drawShare u v then if (<- random) < s.keepShare u v then s := s.take u v
 throw .endless

def byEdges : Draw Drawing := do
 let mut s := s
 let ns := s.left.keys
 let possible := (ns.zipIdx.flatMap fun (u, i) => (ns.drop (i + 1)).map (u, ·)).filter fun (u, v) =>
  !s.graph.hasEdge u v
 let mut h := ({} : Graph).addEdges possible
 for _ in [0:patience] do
  let u :: vs := s.left.keys | return s
  if vs.all (s.graph.hasEdge u) then throw (.graph .unfeasible "no suitable edges left")
  let e <- choice h.edges
  let (u, v) <- sortedPair e.src e.dst
  if (<- random) < s.drawShare u v then
   if (<- random) < s.keepShare u v then
    s := s.take u v
    h := h.removeEdge u v
    for x in [u, v] do if !s.left.has x then h := h.removeNode x
 throw .endless

end Drawing

def withDegrees (degrees : List Num) : Draw Graph := do
 let table : Table Num := degrees.zipIdx.map fun (d, i) => (i, d)
 let s : Drawing := {
  degrees := table
  left := table.filter (!·.2.isZero)
  graph := ({} : Graph).addNodes table.keys
  half := (sum degrees).toFloat / 2.0
  top := degrees.foldl max 0 }
 if s.left.isEmpty then return s.graph
 return (<- (<- (<- s.byEnds).byNodes).byEdges).graph

def drawnWithDegrees : Work Graph := do
 if !(<- graphical (a 0) "hh") then throw (.graph .unfeasible "degree sequence is not graphical")
 sow (a 1)
 let ds <- (<- a.items 0).mapM (·.num)
 let tries <- a.int 2
 for _ in [0:tries.toNat] do
  let found : Option Graph <- tryCatch (do return some (<- draw (withDegrees ds))) fun
   | .graph .unfeasible _ => return none
   | f => throw f
  if let some g := found then return g
 fail s!"failed to generate graph in {tries} tries"

/-! ## Graphs in space -/

def endowed (name given : Value) (fresh : Draw Value) : Work Graph := do
 match given with
 | .null => draw (g.verts.foldlM (fun g n => do return g.setNodeAttr n name (<- fresh)) g)
 | .dict d => d.foldlM (fun g (n, v) => do if g.hasNode n then return g.setNodeAttr n name v else throw .noKey) g
 | _ => throw .noPart

def placed (dim : Int) (given : Value) : Work Graph :=
 endowed g "pos" given do return .list (<- (List.range dim.toNat).mapM fun _ => return .float (<- random))

def squared : Num -> Num
 | .int i => .int (i * i)
 | .float x => pow x 2.0

def squaredDistance (x y : Value) : Res Num :=
 return sum (<- ((<- x.items).zip (<- y.items)).mapM fun (a, b) => return squared ((<- a.num) - (<- b.num)))

def attrOf (n name : Value) : Res Value := Table.get (g.nodeItems n) name

def squaredBetween (u v : Value) : Res Num := do squaredDistance (<- attrOf g u "pos") (<- attrOf g v "pos")

def pairsBackwards (ns : Vals) : Pairs := ns.zipIdx.reverse.flatMap fun (u, i) => (ns.take i).map (u, ·)

def requireAttrs (names : Vals) : Res Unit :=
 g.verts.reverse.forM fun n => names.forM fun name => discard (attrOf g n name)

def geometric : Work Graph := do
 let g := numbered (<- a.int 0) false "Random Geometric Graph" []
 let g <- placed g (<- a.int 2) (a 3)
 requireAttrs g ["pos"]
 let es <- (pairsBackwards g.verts).filterM fun (u, v) => return (<- squaredBetween g u v).le (squared (<- a.num 1))
 return g.addEdges es

def power (x : Float) (n : Num) : Res Float := do
 if x == 0 && n.lt 0 then .error .byZero
 let y := pow x n.toFloat
 if y.isInf && !x.isInf then .error .overflow else return y

def heavyOrNear (theta alpha : Value) : Res Pairs := do
 requireAttrs g ["weight", "pos"]
 (pairsBackwards g.verts).filterM fun (u, v) => do
  let r := (<- squaredBetween g u v).toFloat.sqrt
  let w := (<- (<- attrOf g u "weight").num) + (<- (<- attrOf g v "weight").num)
  return le ((<- theta.num) * (<- power r (<- alpha.num))) w

def geographical : Work Graph := do
 let g := (Graph.new false false).addNodes ((range 0 (<- a.int 0)).map .int)
 let g <- endowed g "weight" (a 5) do return <- .exponential 1.0
 let g <- placed g (<- a.int 3) (a 4)
 return g.addEdges (<- heavyOrNear g (a 1) (a 2))

def waxman : Work Graph := do
 let n <- a.int 0
 let g := (Graph.new false false).addNodes ((range 0 n).map .int)
 let [x0, y0, x1, y1] <- a.items 4 | throw .badVal
 let width (lo hi : Value) : Res Float := do
  let (l, h) := (<- lo.num, <- hi.num)
  return (l + (h - l)).toFloat
 let (w, h) := (<- width x0 x1, <- width y0 y1)
 let g <- draw (g.verts.foldlM (fun g v => do
  let x := w * (<- random)
  let y := h * (<- random)
  return g.setNodeAttr v "pos" (.tuple [.float x, .float y])) g)
 let (alpha, beta) := ((<- a.num 1).toFloat, (<- a.num 2).toFloat)
 let pairs := pairsBackwards g.verts
 let ds <- pairs.mapM fun (u, v) => return (<- squaredBetween g u v).toFloat.sqrt
 let scale <- if a.isNull 3 then pure (ds.foldl (fun m d => if m < d then d else m) 0.0) else do pure (<- a.num 3).toFloat
 let es <- draw ((pairs.zip ds).filterM fun (_, d) => do
  let r <- if a.isNull 3 then pure d else do pure ((<- random) * scale)
  let x <- random
  if beta * scale == 0 then throw .byZero
  let share := exp (-r / (beta * scale))
  if share.isInf then throw .overflow
  return x < alpha * share)
 return g.addEdges (es.map (·.1))

def gridPoints (n : Int) : Nat -> List (List Int)
 | 0 => [[]]
 | d + 1 => (range 0 n).flatMap fun i => (gridPoints n d).map (i :: ·)

def inversePower (d : Int) (r : Num) : Res Num :=
 match r with
 | .int 0 => .ok 1
 | r => if d = 0 then .error .byZero else .ok (.float (pow (ofInt d) (-r).toFloat))

def navigable : Work Graph := do
 let (n, p, q, r) := (<- a.int 0, <- a.num 1, <- a.num 2, <- a.num 3)
 if p.lt 1 then throw (.graph .general "p must be >= 1")
 if q.lt 0 then throw (.graph .general "q must be >= 0")
 if r.lt 0 then throw (.graph .general "r must be >= 1")
 sow (a 5)
 let dim <- a.int 4
 if dim < 0 then throw .badVal
 let points := gridPoints n dim.toNat
 let node (x : List Int) := .tuple (x.map .int)
 let ways <- a.int 2
 draw (points.foldlM (fun g x => do
  let (g, sums) <- points.foldlM (fun acc y => do
   if x = y then return acc
   let d := Total.ofInts ((x.zip y).map fun (i, j) => ((j - i).natAbs : Int))
   let g := if le (.int d) p then acc.1.addEdge (node x) (node y) else acc.1
   return (g, acc.2 ++ [acc.2.getLastD 0 + (<- inversePower d r)])) (g, [0])
  (List.range ways.toNat).foldlM (fun g _ => do
   let t <- .uniform 0 (sums.getLastD 0).toFloat
   let i := (sums.findIdx? (t ≤ ·.toFloat)).getD sums.length
   return g.addEdge (node x) (node (<- opt .beyond points[i]?))) g) (.new true false))

def expectedCommands : List Cmd := [
 .kept "expected_degree_graph" "w seed? selfloops=True" expected,
 .kept "random_degree_sequence_graph" "sequence seed? tries=10" drawnWithDegrees,
 .kept "random_geometric_graph" "n radius dim=2 pos?" geometric,
 .kept "geographical_threshold_graph" "n theta alpha=2 dim=2 pos? weight?" geographical,
 .of "geographical_threshold_edges" "G theta alpha=2" fun g a =>
  return .list ((<- heavyOrNear g (a 1) (a 2)).map .couple),
 .kept "waxman_graph" "n alpha=0.4 beta=0.1 L? domain=(0,0,1,1)" waxman,
 .kept "navigable_small_world_graph" "n p=1 q=1 r=2 dim=2 seed?" navigable]

end Generate

end DexLens.Network

/-! # Edges with detours

An edge is robust if there are enough disjoint paths between its ends.
-/

namespace DexLens.Network

open Edit

namespace Robust

variable (g : Graph) (u v : Value) (k : Nat) (l : Num) (near : Bool)

def around : Vals :=
 k.fold (fun _ _ ns => ns.foldl (fun acc n => (g.nbrs n).foldl including acc) ns) (uniq [u, v])

def without (path : Vals) : Res Graph :=
 (path.zip (path.drop 1)).foldlM (fun g (x, y) => do
  if x.same y then return g
  result g (removeEdge x y)) g

def isRobust : Res Bool := do
 let mut h := if near then g.subgraph (around g u v k) else g
 let mut path := [u, v]
 for i in [1:g.edges.length + 3] do
  if Num.le l (.int i) then return true
  h <- without h path
  match h.pathBetween u v with
  | .ok p => path := p
  | .error (.graph .noPath _) => return false
  | .error f => .error f
 return false

def core : Res (Graph × Bool) := do
 let mut h := g
 let mut whole := true
 for _ in [0:g.edges.length + 1] do
  let mut some_ := false
  for e in h.edges do
   if !(<- isRobust g e.src e.dst k l near) then
    h <- result h (removeEdge e.src e.dst)
    some_ := true
    whole := false
  if !some_ then break
 return (h, whole)

def cmds : List Cmd := [
 .of "generators.hybrid.kl_connected_subgraph" "G k l low_memory=False same_as_graph=False" fun g a => do
  let k <- if a.truth 3 then do pure (<- a.int 1).toNat else pure 0
  let (h, whole) <- core g k (<- a.num 2) (a.truth 3)
  let ref <- keep h.copy
  return if a.truth 4 then .tuple [ref, whole] else ref,
 .of "generators.hybrid.is_kl_connected" "G k l low_memory=False" fun g a => do
  let k <- if a.truth 3 then pure (<- a.int 1).toNat else pure 0
  let l <- a.num 2
  for e in g.edges do if !(<- isRobust g e.src e.dst k l (a.truth 3)) then return false
  return true]

end Robust

end DexLens.Network
