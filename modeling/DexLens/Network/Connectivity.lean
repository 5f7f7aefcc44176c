import DexLens.Network.Bipartite

/-! # Flows through networks -/

namespace DexLens.Network

open Graph Num

namespace Graph

variable (g : Graph) (r : Residual) (capacity u v : Value)

/-- What capacity is left on edges, and the flow through those whose capacity has no bound. -/
structure Residual where
 graph : Graph
 unbounded : Table Num := []

def residual (capacity : Value) : Res Residual := do
 let start := { graph := (new true false).addNodes g.verts }
 g.edges.foldlM (fun r e => do
  let ways := if g.directed then [(e.src, e.dst)] else [(e.src, e.dst), (e.dst, e.src)]
  let joined := ways.foldl (fun h (u, v) => h.addEdge u v e.items) r.graph
  if let some c := e.items.get? capacity then return if lt 0 (<- c.num) then { r with graph := joined } else r
  else
   return {
    graph := joined
    unbounded := ways.foldl (fun t (u, v) => .put t (.tuple [u, v]) 0) r.unbounded }) start

def Residual.left? : Option Value := (r.graph.data u v).get? capacity

def Residual.send (capacity : Value) (amount : Num) (u v : Value) : Res Residual := do
 let r <- if let some c := r.left? capacity u v then do
   let left := (<- c.num) - amount
   pure { r with graph := if left.isZero then r.graph.unlink u v
    else r.graph.setEdgeAttr u v capacity left }
  else pure { r with unbounded := r.unbounded.change (.tuple [u, v]) 0 (· + amount) }
 if r.graph.hasEdge v u then
  let some c := r.left? capacity v u | return r
  return { r with graph := r.graph.setEdgeAttr v u capacity ((<- c.num) + amount) }
 else return { r with graph := r.graph.addEdge v u [(capacity, amount)] }

def mustHold (n : Value) : Res Unit := if g.contains n then .ok () else fail s!"node {n.shown} not in graph"

def greatestFlow (s t capacity : Value) : Res (Num × Residual) := do
 if g.multi then fail "MultiGraph and MultiDiGraph not supported (yet)."
 g.mustHold s
 g.mustHold t
 let mut r <- g.residual capacity
 let mut value := 0
 for _ in [0:1000000] do
  match r.graph.pathBetween s t with
  | .error (.graph .noPath _) => return (value, r)
  | .error f => .error f
  | .ok path =>
   let edges := path.zip (path.drop 1)
   let bounds := edges.filterMap fun (u, v) => r.left? capacity u v
   if bounds.isEmpty then .error (.graph .unbounded "Infinite capacity path, flow unbounded above.")
   let amount <- (<- Value.least bounds).num
   value := value + amount
   for (u, v) in edges do r <- r.send capacity amount u v
 return (value, r)

def Num.magnitude (x : Num) : Num := if x.lt 0 then -x else x

def directedFlow : Res Num := do
 let own := (g.data u v).get? capacity
 let unbounded a b := r.unbounded.get (.tuple [a, b])
 if !r.graph.hasEdge u v then (<- opt .noKey own).num
 else
  if let some c := own then
   let left <- opt .noKey (r.left? capacity u v)
   return max 0 ((<- c.num) - (<- left.num))
  else
   if g.hasEdge v u && ((g.data v u).get? capacity).isNone then return max 0 ((<- unbounded u v) - (<- unbounded v u))
   return max 0 ((<- ((r.left? capacity v u).getD 0).num) - (<- ((g.data v u).getD capacity 0).num))

def undirectedFlow : Res Num := do
 match (g.data u v).get? capacity, r.graph.hasEdge u v with
 | some c, false => c.num
 | none, false => .error .noKey
 | some c, true =>
  let left <- opt .noKey (r.left? capacity u v)
  return Num.magnitude ((<- c.num) - (<- left.num))
 | none, true => return Num.magnitude ((<- r.unbounded.get (.tuple [u, v])) - (<- r.unbounded.get (.tuple [v, u])))

def flowTable (capacity : Value) : Res (Grid Num) := do
 let start : Grid Num := g.verts.map (·, [])
 g.edges.foldlM (fun t e => do
  let (u, v) := (e.src, e.dst)
  if g.directed then return t.set u v (<- g.directedFlow r capacity u v)
  let x <- g.undirectedFlow r capacity u v
  return (t.set u v x).set v u x) start

end Graph

namespace Flow

def grid (t : Grid Num) : Value := .ofTable Paths.distances t

def greatest (a : Args) : Work (Graph × Num × Residual) := do
 let g <- a.graph
 let (v, r) <- g.greatestFlow (a 1) (a 2) (a 3)
 return (g, v, r)

def leastCut (g : Graph) (s t capacity : Value) : Res (Num × Residual) :=
 match g.greatestFlow s t capacity with
 | .error (.graph .unbounded _) => .error (.graph .unbounded "Infinite capacity path, no minimum cut.")
 | r => r

def cmds : List Cmd := [
 ⟨"ford_fulkerson_flow_and_auxiliary", "G s t capacity=", fun a => do
  let (_, v, r) <- greatest a
  let h := r.graph.setAttr "inf_capacity_flows" (Paths.distances r.unbounded)
  return .tuple [v, <- keep h]⟩,
 ⟨"ford_fulkerson", "G s t capacity=", fun a => do
  let (g, v, r) <- greatest a
  return .tuple [v, grid (<- g.flowTable r (a 3))]⟩,
 ⟨"ford_fulkerson_flow", "G s t capacity=", fun a => do
  let (g, _, r) <- greatest a
  return grid (<- g.flowTable r (a 3))⟩,
 ⟨"max_flow", "G s t capacity=", fun a => do
  let (_, v, _) <- greatest a
  return v⟩,
 .of "min_cut" "G s t capacity=" fun g a => do
  let (v, _) <- leastCut g (a 1) (a 2) (a 3)
  return v]

end Flow

/-! # How many nodes or edges hold a graph together -/

namespace Graph

variable (g : Graph) (sp : Split) (s t : Value) (v : Value) (i : Nat)

structure Split where
 graph : Graph
 index : Table Nat

def entryOf : Value := s!"{i}A"

def exitOf : Value := s!"{i}B"

def split : Split :=
 let one : Items := [("capacity", 1)]
 let index : Table Nat := g.verts.zipIdx
 let d := index.foldl (fun d (n, i) =>
  ((d.addNode (entryOf i) [("id", n)]).addNode (exitOf i) [("id", n)]).addEdge (entryOf i) (exitOf i) one)
  (new true false)
 let number n : Nat := index.getD n 0
 let d := g.edges.foldl (fun d e =>
  let d := d.addEdge (exitOf (number e.src)) (entryOf (number e.dst)) one
  if g.directed then d else d.addEdge (exitOf (number e.dst)) (entryOf (number e.src)) one) d
 ⟨d, index⟩

def Split.connectivity : Res Num := do
 let i <- sp.index.get (<- s.key)
 return (<- sp.graph.greatestFlow (exitOf i) (entryOf (<- sp.index.get (<- t.key))) "capacity").1

def pairsFor (ns : Vals) : Pairs :=
 if g.directed then ns.zipIdx.flatMap fun (u, i) => (ns.zipIdx.filter (·.2 != i)).map fun (v, _) => (u, v)
 else pairsOf ns

def around : Vals := if g.directed then g.conbrs v ++ g.nbrs v else g.nbrs v

def leastDegree : Nat × Value :=
 match g.succ.keys with
 | [] => (0, .null)
 | n :: ns => ns.foldl (fun best m => if g.degree m < best.1 then (g.degree m, m) else best)
  (g.degree n, n)

def cutPairs : Pairs :=
 let near := g.around v
 ((g.verts.filter fun w => !near.contains w && w != v).map (v, ·)) ++
  (g.pairsFor near).filter fun (x, y) => !g.hasEdge x y

def mustHave (n : Value) : Res Unit := do
 if g.contains n then return ()
 fail ("node " ++ (<- n.filling) ++ " not in graph")

def nodeConnectivity : Res Num := do
 if !(<- g.isWhole) then return 0
 let (_, v) := g.leastDegree
 let sp := g.split
 (g.cutPairs v).foldlM fun k (x, y) => return min k (<- sp.connectivity x y)
  (.int (g.order - 1))

def unitCapacities : Graph :=
 if g.directed && g.edges.any (·.items.has "capacity") then g
 else
  let d := g.toDirected
  if d.multi then d
  else d.edges.foldl (fun d e => d.setEdgeAttr e.src e.dst "capacity" 1) d

def dominating (start : Value) : Vals :=
 ((List.range g.order).foldl (fun acc _ =>
  let (d, nd) := acc
  match without (without g.verts nd) d with
  | [] => acc
  | w :: _ =>
   let d := d ++ [w]
   (d, nd ++ without (g.nbrs w) d)) ([start], g.nbrs start)).1

def edgeCutPairs : Pairs :=
 if g.directed then g.verts.zip (g.verts.drop 1 ++ g.verts.take 1)
 else
  if let some (v :: ws) := (g.verts.map g.dominating).find? fun d => d.length > 1 then ws.map (v, ·) else []

def edgeConnectivity : Res Num := do
 if !(<- g.isWhole) then return 0
 let h := g.unitCapacities
 g.edgeCutPairs.foldlM (fun k (x, y) => return min k (<- h.greatestFlow x y "capacity").1) (.int g.leastDegree.1)

def edgeCut (s t capacity : Value) : Res Pairs := do
 let (_, r) <- Flow.leastCut g s t capacity
 let reached := (<- r.graph.paths s .null).keys
 return reached.flatMap fun u => ((g.nbrs u).filter (!reached.contains ·)).map (u, ·)

def Split.nodeCut : Res Vals := do
 let cut <- sp.graph.edgeCut (exitOf (<- sp.index.get (<- s.key))) (entryOf (<- sp.index.get (<- t.key))) "capacity"
 let ids := cut.flatMap fun (u, v) => [u, v].map fun n => (sp.graph.nodeItems n).getD "id" .null
 return (uniq ids).filter fun n => n != s && n != t

end Graph

namespace Connectivity

variable (a : Args) (g : Graph)

def ends : Work (Option (Value × Value)) := do
 if a.isNull 1 || a.isNull 2 then return none
 g.mustHave (a 1)
 g.mustHave (a 2)
 return (a 1, a 2)

def notConnected {α : Type} : Work α := fail "Input graph is not connected"

def nodeCut : Work Value := do
 let g <- a.graph
 if let some (s, t) <- ends a g then return .set (<- g.split.nodeCut s t)
 else
  if !(<- g.isWhole) then notConnected
  let (_, v) := g.leastDegree
  let sp := g.split
  let cut <- (g.cutPairs v).foldlM (fun best (x, y) => do
   let this <- sp.nodeCut x y
   return if best.length ≥ this.length then this else best) (g.nbrs v)
  return .set cut

def edgeCut : Work Value := do
 let g <- a.graph
 let h := g.unitCapacities
 let asSet es := .set (es.map .couple)
 if let some (s, t) <- ends a g then return asSet (<- h.edgeCut s t "capacity")
 else
  if !(<- g.isWhole) then notConnected
  let (_, n) := g.leastDegree
  let first := g.edgesOf [n]
  let cut <- g.edgeCutPairs.foldlM (fun best (x, y) => do
   let this <- h.edgeCut x y "capacity"
   return if this.length ≤ best.1 then (this.length, asSet this) else best)
   (first.length, .list (first.map Edge.ends))
  return cut.2

def splitOf : Work Split := do
 let (some h, .dict t) := ((<- get).graph? (a 3), a 4) | return g.split
 return ⟨h, <- t.mapM fun (n, i) => return (n, (<- i.asInt).toNat)⟩

def cmds : List Cmd := [
 .of "average_node_connectivity" "G" fun g _ => do
  let sp := g.split
  let ks <- (g.pairsFor g.verts).mapM fun (u, v) => sp.connectivity u v
  if ks.isEmpty then return 0
  return .float (ks.foldl (· + ·.toFloat) 0.0 / ofInt ks.length),
 .of "local_node_connectivity" "G s t aux_digraph? mapping?" fun g a =>
  return <- (<- splitOf a g).connectivity (a 1) (a 2),
 .of "node_connectivity" "G s? t?" fun g a => do
  let some (s, t) <- ends a g | return <- g.nodeConnectivity
  return <- g.split.connectivity s t,
 .of "all_pairs_node_connectivity_matrix" "G nodelist?" fun g a => do
  let ns <- if a.isNull 1 then pure g.verts else a.items 1
  if ns.isEmpty then fail "Graph has no nodes or edges"
  if (uniq ns).length != ns.length then fail "Ambiguous ordering: \x60nodelist\x60 contained duplicates."
  let sp := g.split
  let rows <- g.verts.mapM fun u => g.verts.mapM fun v => do
   if u == v then return 0
   return (<- sp.connectivity u v).value
  return .array (rows.map .array),
 .of "local_edge_connectivity" "G u v aux_digraph?" fun g a => do
  let h := ((<- get).graph? (a 3)).getD g.unitCapacities
  return (<- h.greatestFlow (a 1) (a 2) "capacity").1,
 .of "edge_connectivity" "G s? t?" fun g a => do
  let some (s, t) <- ends a g | return <- g.edgeConnectivity
  return (<- g.unitCapacities.greatestFlow s t "capacity").1,
 .of "minimum_st_edge_cut" "G s t capacity=" fun g a =>
  return .set ((<- g.edgeCut (a 1) (a 2) (a 3)).map .couple),
 .of "minimum_st_node_cut" "G s t aux_digraph? mapping?" fun g a =>
  return .set (<- (<- splitOf a g).nodeCut (a 1) (a 2)),
 ⟨"minimum_node_cut", "G s? t?", nodeCut⟩,
 ⟨"minimum_edge_cut", "G s? t?", edgeCut⟩]

end Connectivity

end DexLens.Network
