import DexLens.Network.Components

/-! # Heaps

No item comes before the item at half its position.
-/

namespace DexLens.Network.Heap

variable {α : Type} [Inhabited α] (less : α -> α -> Res Bool) (h : Array α)

def rise (less : α -> α -> Res Bool) (h : Array α) (pos : Nat) : Res (Array α) := do
 if pos = 0 then return h
 let parent := (pos - 1) / 2
 let (some x, some p) := (h[pos]?, h[parent]?) | return h
 if <- less x p then rise less ((h.setIfInBounds pos p).setIfInBounds parent x) parent
 else return h
termination_by pos
decreasing_by omega

def sink (less : α -> α -> Res Bool) : Nat -> Array α -> Nat -> Res (Array α × Nat)
 | 0, h, pos => .ok (h, pos)
 | fuel + 1, h, pos => do
  let left := 2 * pos + 1
  let (some x, some l) := (h[pos]?, h[left]?) | return (h, pos)
  let child <- if let some r := h[left + 1]? then if <- less l r then pure left else pure (left + 1) else pure left
  let some c := h[child]? | return (h, pos)
  sink less fuel ((h.setIfInBounds pos c).setIfInBounds child x) child

def push (x : α) : Res (Array α) := rise less (h.push x) h.size

def pop? : Res (Option (α × Array α)) := do
 let (some last, some first) := (h.back?, h[0]?) | return none
 let h := h.pop
 if h.isEmpty then return some (last, h)
 let (h, pos) <- sink less h.size (h.setIfInBounds 0 last) 0
 return (first, <- rise less h pos)

end DexLens.Network.Heap

/-! # Paths of the least weight -/

namespace DexLens.Network

open Heap Num Value

namespace Graph

variable (g : Graph) (src dst weight : Value)

section

variable (b : Bundle) (src dst cutoff weight v : Value)

def bundleCost : Res Value :=
 match b with
 | .one r => .ok (r.items.getD weight 1)
 | .many rs => least (rs.values.map (·.items.getD weight 1))

def costs : Res Pairs := do (<- g.row v).mapM fun (w, b) => return (w, <- bundleCost b weight)

structure Search where
 dist : Table Num := []
 seen : Table Num := []
 paths : Table Vals := []
 pred : Table Vals := []
 fringe : Array Value := #[]

def Search.relax (s : Search) (v w : Value) (d : Num) : Res Search := do
 if let some old := s.dist.get? w then if d.lt old then .error .badVal else return s
 else
  if (s.seen.get? w).elim true d.lt then
   return { s with
    seen := s.seen.put w d
    fringe := <- push less s.fringe (.tuple [d, w])
    paths := s.paths.put w (s.paths.getD v [] ++ [w])
    pred := s.pred.put w [v] }
  else if s.seen.get? w == d then return { s with pred := s.pred.change w [] (· ++ [v]) }
  else return s

def searchByWeight : Res Search := do
 let mut s : Search := {
  seen := [(<- src.key, 0)]
  paths := [(src, [src])]
  pred := [(src, [])]
  fringe := #[.tuple [0, src]] }
 for _ in [0:g.bound] do
  let some (.tuple [d, v], rest) <- pop? less s.fringe | break
  s := { s with fringe := rest }
  if s.dist.has v then continue
  let d <- d.num
  s := { s with dist := s.dist ++ [(v, d)] }
  if !dst.isNull && v == dst then break
  for (w, c) in <- g.costs weight v do
   let total := d + (<- c.num)
   if !cutoff.isNull then if (<- cutoff.num).lt total then continue
   s <- s.relax v w total
 return s

def dijkstra : Res (Table Num × Table Vals) := do
 if src == dst then return ([(<- src.key, 0)], [(src, [src])])
 let s <- g.searchByWeight src dst cutoff weight
 return (s.dist, s.paths)

end

def unreachable {α : Type} (src dst : Value) : Res α :=
 .error (.graph .noPath s!"node {src.shown} not reachable from {dst.shown}")

def dijkstraPath : Res Vals := do
 let (_, paths) <- g.dijkstra src dst .null weight
 let some p := paths.get? (<- dst.key) | unreachable src dst
 return p

def dijkstraDistances (src cutoff weight : Value) : Res (Table Num) :=
 return (<- g.searchByWeight src .null cutoff weight).dist

def dijkstraPaths (src cutoff weight : Value) : Res (Table Vals) :=
 return (<- g.dijkstra src .null cutoff weight).2

def dijkstraDistance : Res Num := do
 let some d := (<- g.dijkstraDistances src .null weight).get? (<- dst.key) | unreachable src dst
 return d

def bellmanFord (src weight : Value) : Res (Table Value × Table Num) := do
 if !g.contains src then .error .noKey
 let mut dist : Table Num := [(src, 0)]
 let mut pred : Table Value := [(src, .null)]
 if g.order = 1 then return (pred, dist)
 for _ in [0:g.order] do
  let mut changed := false
  for (u, du) in dist do
   for (v, c) in <- g.costs weight u do
    let dv := du + (<- c.num)
    if (dist.get? v).elim true dv.lt then
     dist := dist.put v dv
     pred := pred.put v u
     changed := true
  if !changed then return (pred, dist)
 .error (.graph .unbounded "Negative cost cycle detected.")

structure Front where
 dists : Table Num := []
 seen : Table Num
 paths : Table Vals
 fringe : Array Value

abbrev Way := Num × Vals

def Front.relax (here there : Front) (forward : Bool) (final : Option Way) (v w : Value) (total : Num) :
 Res (Front × Option Way) := do
 if let some old := here.dists.get? w then if total.lt old then .error .badVal else return (here, final)
 else
  if !(here.seen.get? w).elim true total.lt then return (here, final)
  let here := { here with
   seen := here.seen.put w total
   fringe := <- push less here.fringe (.tuple [total, w])
   paths := here.paths.put w (here.paths.getD v [] ++ [w]) }
  let some other := there.seen.get? w | return (here, final)
  let (a, b) := if forward then (here, there) else (there, here)
  let sum := if forward then total + other else other + total
  if final.elim true fun (old, _) => sum.lt old then
   return (here, some (sum, a.paths.getD w [] ++ (b.paths.getD w []).reverse.drop 1))
  else return (here, final)

def Front.advance (weight : Value) (here there : Front) (forward : Bool) (final : Option Way) :
 Res (Front × Option Way × Bool) := do
 let some (.tuple [d, v], rest) <- pop? less here.fringe | return (here, final, true)
 let here := { here with fringe := rest }
 if here.dists.has v then return (here, final, false)
 let d <- d.num
 let here := { here with dists := here.dists ++ [(v, d)] }
 if there.dists.has v then return (here, final, true)
 let next <- if !forward && g.directed then g.preds v else g.neighbors v
 let (here, final) <- next.foldlM (fun acc w => do
  let b := if forward then g.bundle? v w else g.bundle? w v
  let c <- bundleCost (b.getD default) weight
  acc.1.relax there forward acc.2 v w (d + (<- c.num))) (here, final)
 return (here, final, false)

def bidirectionalDijkstra : Res Way := do
 if src == dst then return (0, [src])
 let front v : Front := { seen := [(v, 0)], paths := [(v, [v])], fringe := #[.tuple [0, v]] }
 let mut fore := front (<- src.key)
 let mut aft := front (<- dst.key)
 let mut forward := false
 let mut final := none
 for _ in [0:2 * g.bound] do
  if fore.fringe.isEmpty || aft.fringe.isEmpty then break
  forward := !forward
  let (here, there) := if forward then (fore, aft) else (aft, fore)
  let (here, way, done) <- here.advance g weight there forward final
  final := way
  if done then return <- opt .unbound final
  if forward then fore := here else aft := here
 noPath src dst

end Graph

def Paths.distances (t : Table Num) : Value := ofTable value t

def Paths.weightedCommands : List Cmd := [
 ⟨"dijkstra_path", "G source target weight=", Graph.dijkstraPath⟩,
 ⟨"dijkstra_path_length", "G source target weight=", Graph.dijkstraDistance⟩,
 ⟨"single_source_dijkstra_path", "G source cutoff? weight=", Graph.dijkstraPaths⟩,
 ⟨"single_source_dijkstra_path_length", "G source cutoff? weight=", Graph.dijkstraDistances⟩,
 .of "single_source_dijkstra" "G source target? cutoff? weight=" fun g a => do
  let (d, p) <- g.dijkstra (a 1) (a 2) (a 3) (a 4)
  return .tuple [distances d, lists p],
 .of "dijkstra_predecessor_and_distance" "G source cutoff? weight=" fun g a => do
  let s <- g.searchByWeight (a 1) .null (a 2) (a 3)
  return .tuple [lists s.pred, distances s.dist],
 .of "all_pairs_dijkstra_path_length" "G cutoff? weight=" fun g a =>
  return ofTable distances (<- g.verts.mapM fun n => return (n, <- g.dijkstraDistances n (a 1) (a 2))),
 .of "all_pairs_dijkstra_path" "G cutoff? weight=" fun g a =>
  return ofTable lists (<- g.verts.mapM fun n => return (n, <- g.dijkstraPaths n (a 1) (a 2))),
 .of "bellman_ford" "G source weight=" fun g a => do
  let (p, d) <- g.bellmanFord (a 1) (a 2)
  return .tuple [.dict p, distances d],
 .of "negative_edge_cycle" "G weight=" fun g a => do
  if g.frozen then throw Method.frozenFault
  let start := .bytes []
  if g.nodes.isEmpty then throw .noKey
  let h := g.addEdges (g.verts.map (start, ·))
  match h.bellmanFord start (a 1) with
  | .ok _ => return .bool false
  | .error (.graph .unbounded _) => return .bool true
  | .error f => throw f,
 .of "bidirectional_dijkstra" "G source target weight=" fun g a => do
  let (d, p) <- g.bidirectionalDijkstra (a 1) (a 2) (a 3)
  return .tuple [d, p]]

/-! # Distances between all nodes, paths by estimate, and simple paths -/

namespace Graph

abbrev Grid (α : Type) := Table (Table α)

namespace Grid

variable {α : Type} (t : Grid α) (u v : Value)

def at? : Option α := (t.get? u).bind (·.get? v)

def set (a : α) : Grid α := t.change u [] (·.put v a)

end Grid

def floydWarshall (g : Graph) (weight : Value) : Res (Grid Value × Grid Num) := do
 let inf := .float (1.0 / 0.0)
 let mut dist : Grid Num := g.verts.map fun u => (u, [(u, 0)])
 let mut pred : Grid Value := []
 for e in g.edges do
  let c := e.get weight (.float 1.0)
  let least t u v : Res (Grid Num) := do
   let x <- c.num
   let old := (t.at? u v).getD inf
   return t.set u v (if old.lt x then old else x)
  dist <- least dist e.src e.dst
  pred := pred.set e.src e.dst e.src
  if !g.directed then
   dist <- least dist e.dst e.src
   pred := pred.set e.dst e.src e.dst
 for w in g.verts do
  for u in g.verts do
   for v in g.verts do
    let sum := (dist.at? u w).getD inf + (dist.at? w v).getD inf
    if sum.lt ((dist.at? u v).getD inf) then
     dist := dist.set u v sum
     pred := pred.set u v (<- opt .noKey (pred.at? w v))
 return (pred, g.verts.map fun u => (u, g.verts.map fun v => (v, (dist.at? u v).getD inf)))

end Graph

def hashPrime : Int := .pow 2 61 - 1

def Value.hash : Value -> Int
 | .int i => ofInt i
 | .bool b => if b then 1 else 0
 | .float x =>
  if x.isNaN then 0
  else if x.isInf then (if x > 0 then 314159 else -314159)
  else
   if let some (n, d) := Decimal.fraction? x then
    let k := Nat.log2 d % 61
    ofRational n (.pow 2 ((61 - k) % 61))
   else 0
 | .tuple xs => ofLanes (lanes xs)
 | _ => 0
where
 fix (i : Int) : Int := if i = -1 then -2 else i
 ofInt (i : Int) : Int := ofRational i 1
 ofRational (n : Int) (inverse : Int) : Int :=
  fix (if n < 0 then -(-n * inverse % hashPrime) else n * inverse % hashPrime)
 lanes : Vals -> List Int
  | [] => []
  | x :: xs => hash x :: lanes xs
 ofLanes (ls : List Int) : Int :=
  let wide (i : Int) : Nat := (i % Int.pow 2 64).toNat
  let acc : Nat := ls.foldl (fun (acc : Nat) (l : Int) =>
   let a := (acc + wide l * 14029467366897019727) % Nat.pow 2 64
   let r := a * Nat.pow 2 31 % Nat.pow 2 64 + a / Nat.pow 2 33
   r * 11400714785074694791 % Nat.pow 2 64) (2870177450012600261 : Nat)
  let acc : Nat := (acc + (ls.length ^^^ (2870177450012600261 ^^^ 3527539))) % Nat.pow 2 64
  if acc = Nat.pow 2 64 - 1 then 1546275796
  else if acc ≥ Nat.pow 2 63 then (acc : Int) - Int.pow 2 64 else acc

namespace Graph

variable (g : Graph)

def starPath (src dst weight : Value) (estimate : Value -> Value -> Res Value) : Res Vals:= do
 if g.multi then fail "astar_path() not implemented for Multi(Di)Graphs"
 let mut queue := #[.tuple [0, .int (<- src.key).hash, src, 0, .null]]
 let mut enqueued : Table (Num × Num) := []
 let mut explored : Table Value := []
 for _ in [0:g.bound] do
  let some (.tuple [_, _, node, dist, parent], rest) <- pop? less queue | break
  queue := rest
  if node == dst then return (node :: follow explored (explored.length + 1) parent).reverse
  if explored.has node then continue
  explored := explored ++ [(node, parent)]
  for (next, b) in <- g.row node do
   if explored.has next then continue
   let cost := (<- dist.num) + (<- (b.items.getD weight 1).num)
   let (skip, h) <- if let some (old, h) := enqueued.get? next then pure (old.le cost, h)
    else do pure (false, <- (<- estimate next dst).num)
   if skip then continue
   enqueued := enqueued.put next (cost, h)
   queue <- push less queue
    (.tuple [(cost + h).value, .int next.hash, next, cost, node])
 .error (.graph .noPath s!"Node {src.shown} not reachable from {dst.shown}")

def steps (v : Value) : Vals :=
 let all := if g.multi then (rowEdges v (g.adj v)).map (·.dst) else g.nbrs v
 all.takeWhile (!·.isNull)

def simplePathsFrom (dst : Value) (cutoff : Num) : Nat -> Vals -> List Vals
 | 0, _ => []
 | fuel + 1, visited =>
  let next := (visited.getLast?.map g.steps).getD []
  if (Num.int visited.length).lt cutoff then
   next.flatMap fun c =>
    if c == dst then [visited ++ [dst]]
    else if visited.contains c then []
    else simplePathsFrom dst cutoff fuel (visited ++ [c])
  else if g.multi then (next.filter (· == dst)).map fun _ => visited ++ [dst]
  else if next.contains dst then [visited ++ [dst]]
  else []

def simplePaths (src dst cutoff : Value) : Res (List Vals) := do
 if !g.contains src then fail ("source node " ++ (<- src.filling) ++ " not in graph")
 if !g.contains dst then fail ("target node " ++ (<- dst.filling) ++ " not in graph")
 let limit <- if cutoff.isNull then pure (.int (g.order - 1)) else cutoff.num
 if limit.lt 1 then return []
 return g.simplePathsFrom dst limit (g.order + 1) [src]

end Graph

def Paths.estimateOf (v : Value) : Work (Value -> Value -> Res Value) := do
 let lab <- get
 return if v.isNull then fun _ _ => .ok 0 else fun a b => lab.apply v [a, b]

def Paths.denseCommands : List Cmd := [
 .of "floyd_warshall_predecessor_and_distance" "G weight=" fun g a => do
  let (p, d) <- g.floydWarshall (a 1)
  return .tuple [ofTable .dict p, ofTable distances d],
 .of "floyd_warshall" "G weight=" fun g a => do
  let (_, d) <- g.floydWarshall (a 1)
  return ofTable distances d,
 .of "astar_path" "G source target heuristic? weight=" fun g a =>
  return <- g.starPath (a 1) (a 2) (a 4) (<- estimateOf (a 3)),
 .of "astar_path_length" "G source target heuristic? weight=" fun g a => do
  let p <- g.starPath (a 1) (a 2) (a 4) (<- estimateOf (a 3))
  return sum (<- (p.zip (p.drop 1)).mapM fun (u, v) => ((g.data u v).getD (a 4) 1).num),
 .of "all_simple_paths" "G source target cutoff?" fun g a =>
  return .list ((<- g.simplePaths (a 1) (a 2) (a 3)).map .list)]

/-! # Shortest paths with or without weights -/

namespace Graph

def backPaths (pred : Table Vals) (src : Value) : Nat -> Vals -> List Vals
 | 0, _ => []
 | fuel + 1, path =>
  match path with
  | [] => []
  | node :: _ =>
   (if node == src then [path] else []) ++ (pred.getD node []).flatMap fun p => backPaths pred src fuel (p :: path)

variable (g : Graph) (weight : Value)

def allShortestPaths (src dst weight : Value) : Res (List Vals) := do
 let pred <- if weight.isNull then (·.1) <$> g.pathPredecessors src .null
  else (·.pred) <$> g.searchByWeight src .null .null weight
 if !pred.has (<- dst.key) then .error (.graph .noPath "")
 return backPaths pred src (g.order + 2) [dst]

def distanceSum : Res Float :=
 g.verts.foldlM (fun total n => do
  if weight.isNull then return total + ofInt (Total.ofNats (<- g.distances n .null).values)
  return total + (sum (<- g.dijkstraDistances n .null weight).values).toFloat) 0.0

def isWhole : Res Bool := if g.directed then g.isWeaklyConnected else g.isConnected

def averageDistance : Res Float := do
 if !(<- g.isWhole) then fail "Graph is not connected."
 let total <- g.distanceSum weight
 let n := g.order
 if n ≤ 1 then .error .byZero
 return total / ofInt (n * (n - 1) : Nat)

end Graph

namespace Paths

def turned {α : Type} (v : Value) (ask : Graph -> Res α) : Work α := do
 let g <- .graph v
 if !g.directed then return <- ask g
 match ask g.flip with
 | .ok x => return x
 | .error f =>
  update v g.flip
  throw f

def shortestPath (a : Args) : Work Value := do
 let g <- a.graph
 let (src, dst, weight) := (a 1, a 2, a 3)
 let from_ (g : Graph) n := if weight.isNull then g.paths n .null else g.dijkstraPaths n .null weight
 if src.isNull then
  if dst.isNull then return ofTable lists (<- g.verts.mapM fun n => return (n, <- from_ g n))
  return ofTable (·.reverse) (<- turned (a 0) (from_ · dst))
 if dst.isNull then return lists (<- from_ g src)
 if weight.isNull then return <- g.pathBetween src dst
 return <- g.dijkstraPath src dst weight

def shortestPathLength (a : Args) : Work Value := do
 let g <- a.graph
 let (src, dst, weight) := (a 1, a 2, a 3)
 let from_ g n : Res Value := if weight.isNull then return lengths (<- g.distances n .null)
  else return distances (<- g.dijkstraDistances n .null weight)
 if src.isNull then
  if dst.isNull then return <- g.verts.mapM fun n => return (n, <- from_ g n)
  return <- turned (a 0) (from_ · dst)
 if dst.isNull then return <- from_ g src
 if weight.isNull then return .nat ((<- g.pathBetween src dst).length - 1)
 return <- g.dijkstraDistance src dst weight

def genericCommands : List Cmd := [
 ⟨"has_path", "G source target", fun a => do
  tryCatch
   (do
    discard (shortestPath ⟨[a 0, a 1, a 2, .null]⟩)
    return .bool true)
   fun
   | .graph .noPath _ => return .bool false
   | f => throw f⟩,
 ⟨"shortest_path", "G source? target? weight?", shortestPath⟩,
 ⟨"shortest_path_length", "G source? target? weight?", shortestPathLength⟩,
 ⟨"average_shortest_path_length", "G weight?", Graph.averageDistance⟩,
 .of "all_shortest_paths" "G source target weight?" fun g a =>
  return .list ((<- g.allShortestPaths (a 1) (a 2) (a 3)).map .list)]

def cmds : List Cmd := unweightedCommands ++ weightedCommands ++ denseCommands ++ genericCommands

end Paths

end DexLens.Network
