import DexLens.Network.Combine

/-! # Flows of least cost

Go from one spanning tree to a better one, starting with a tree of artificial edges that no flow in the end may use.
-/

namespace DexLens.Network

open Graph Num

structure CostNames where
 demand : Value := "demand"
 capacity : Value := "capacity"
 weight : Value := "weight"

/-- The network with its flow, a spanning tree, prices of nodes, and what the edges would save. -/
structure Simplex where
 network : Graph
 tree : Graph := .new true false
 prices : Table Num := []
 reduced : Table Num := []
 artificial : Pairs := []
 cost : Num := 0
 root : Value

namespace Simplex

variable (s : Simplex) (n : CostNames) (new : Value × Value) (u v : Value) (v : Value) (x : Num)

def attr (u v name : Value) : Res Num := ((s.network.data u v).getD name 0).num

def flow (s : Simplex) (u v : Value) : Res Num := s.attr u v "flow"

def setFlow : Simplex := { s with network := s.network.setEdgeAttr u v "flow" x }

def addArtificial (weight : Value) (huge : Num) (u v : Value) (flow : Num) : Simplex :=
 { s with
  network := s.network.addEdge u v [(weight, huge), ("flow", flow)]
  tree := s.tree.addEdge u v
  artificial := s.artificial ++ [(u, v)] }

def setPrice : Simplex := { s with prices := s.prices.put v x }

def attach (huge : Num) (v fresh : Value) (demand : Num) : Res Simplex := do
 let takes := le 0 demand
 let amount := if takes then demand else -demand
 let sign := if takes then 1 else -1
 let (a, b) := if takes then (s.root, v) else (v, s.root)
 let settle (s : Simplex) : Res Simplex := do
  let w <- s.attr a b n.weight
  return { s.setPrice v (sign * w) with cost := s.cost + amount * w }
 if !s.network.hasEdge a b then return <- settle (s.addArtificial n.weight huge a b amount)
 let fits <- if let some c := (s.network.data a b).get? n.capacity then pure (amount.le (<- c.num)) else pure true
 if fits then return <- settle { s.setFlow a b amount with tree := s.tree.addEdge a b }
 let s := (s.addArtificial n.weight huge a fresh amount).addArtificial n.weight huge fresh b amount
 let s := (s.setPrice v (sign * (2 * huge))).setPrice fresh (sign * huge)
 return { s with cost := s.cost + 2 * amount * huge }

def saving (e : Edge) : Res Num :=
 return (<- s.attr e.src e.dst n.weight) + (<- s.prices.get e.src) - (<- s.prices.get e.dst)

def start (g : Graph) (n : CostNames) : Res Simplex := do
 let edges : Res (List Edge) := g.edges.filterM fun e => return lt 0 (<- (e.get n.capacity 1).num)
 let h := (Graph.new true false).addAll (<- edgeList edges)
 let h := g.nodes.foldl (fun h (v, r) =>
  if let some d := r.items.get? n.demand then if d == 0 then h else h.addNode v r.items else h) h
 let r :: rest := h.verts | .error .beyond
 let ws <- (h.edges.filterMap (·.items.get? n.weight)).mapM fun w => return (magnitude (<- w.num)).value
 let top : Num <- if ws.isEmpty then pure 0 else (<- Value.greatest ws).num
 let huge := 1 + .int h.order * top
 let s : Simplex := { network := h, prices := [(r, 0)], root := r }
 let s <- rest.zipIdx.foldlM (fun s (v, i) => do
  s.attach n huge v (.bytes (toString i).toUTF8.toList) (<- ((h.nodeItems v).getD n.demand 0).num)) s
 let reduced <- s.network.edges.mapM fun e => return (e.ends, <- s.saving n e)
 return { s with reduced }

def reducedOf : Num := s.reduced.getD (.tuple [u, v]) 0

def entering? : Option (Value × Value) :=
 (s.network.edges.find? fun e =>
  let flow := e.get "flow" 0
  let c := s.reducedOf e.src e.dst
  if flow == 0 then c.lt 0
  else
   if let some cap := e.items.get? n.capacity then flow == cap && lt 0 c else false).map fun e => (e.src, e.dst)

def unboundedCost {α : Type} : Res α :=
 .error (.graph .unbounded ("Negative cost cycle of infinite capacity found. " ++ "Min cost flow unbounded below."))

def inTree : Bool := s.tree.hasEdge u v || u == new.1 && v == new.2

section

variable (cycle : Vals) (new : Value × Value) (reverse : Bool)

def leaving : Res ((Value × Value) × Num):= do
 let (u, v) := new
 if cycle.length = 3 then
  if !s.network.hasEdge v u then .error .noKey
  if !(s.network.data u v).has n.capacity && !(s.network.data v u).has n.capacity then unboundedCost
  let fuv <- s.flow u v
  let fvu <- s.flow v u
  if reverse then return if fvu.lt fuv then ((v, u), fvu) else ((u, v), fuv)
  let ruv := (<- s.attr u v n.capacity) - fuv
  let rvu := (<- s.attr v u n.capacity) - fvu
  return if rvu.lt ruv then ((v, u), rvu) else ((u, v), ruv)
 let best <- (cycle.zip (cycle.drop 1)).foldlM (fun (best : Option ((Value × Value) × Num)) (a, b) => do
  let found <- if s.inTree new a b then
   if let some c := (s.network.data a b).get? n.capacity then do pure (some ((a, b), (<- c.num) - (<- s.flow a b)))
   else pure none
   else if s.network.hasEdge b a then do pure (some ((b, a), <- s.flow b a))
   else .error .noKey
  match found, best with
  | none, _ => return best
  | some f, none => return f
  | some f, some g => return if f.2.lt g.2 then f else best) none
 let some b := best | unboundedCost
 return b

def shift (eps : Num) : Res Simplex:= do
 if cycle.length = 3 then
  let eps := if reverse then -eps else eps
  let (u, v) := new
  let s := s.setFlow u v ((<- s.flow u v) + eps)
  return s.setFlow v u ((<- s.flow v u) + eps)
 (cycle.zip (cycle.drop 1)).foldlM (fun s (a, b) => do
  if s.inTree new a b then return s.setFlow a b ((<- s.flow a b) + eps)
  return s.setFlow b a ((<- (<- (s.network.data b a).get "flow").num) - eps)) s

end

def reprice : Res Simplex := do
 let forest := (s.tree.unlink new.1 new.2).toUndirected
 let [a, b] <- forest.components | .error .badVal
 let (home, away) := if b.contains s.root then (b, a) else (a, b)
 let c := s.reducedOf new.1 new.2
 let change := if home.contains new.1 then c else -c
 let prices <- away.foldlM (fun t v => return t.put v ((<- t.get v) + change)) s.prices
 let s := { s with prices }
 let reduced <- s.network.edges.foldlM (fun t e => do
  if away.contains e.src || away.contains e.dst then return t.put e.ends (<- s.saving n e)
  return t) s.reduced
 return { s with reduced }

def parting (root : Value) : Vals -> Vals -> Value
 | a :: as, b :: bs => if a == b then parting a as bs else root
 | _, _ => root

def dropTo (path : Vals) : Vals := path.dropWhile (· != v)

def pivot : Res Simplex := do
 let tree := s.tree.toUndirected
 let path1 <- tree.pathBetween s.root new.1
 let path2 <- tree.pathBetween s.root new.2
 let join := parting s.root (path1.drop 1) (path2.drop 1)
 let path1 := dropTo join path1
 let path2 := dropTo join path2
 let reverse := !(<- s.flow new.1 new.2).isZero
 let cycle := if reverse then path2 ++ path1.reverse else path1 ++ path2.reverse
 let (out, eps) <- s.leaving n cycle new reverse
 let s <- if eps.isZero then pure s else do
  let s := { s with cost := s.cost - magnitude (s.reducedOf new.1 new.2) * eps }
  s.shift cycle new reverse eps
 let tree <- Edit.result (s.tree.addEdge new.1 new.2) (.removeEdge out.1 out.2)
 let s := { s with tree }
 if out.1 == new.1 && out.2 == new.2 then return s else s.reprice n new

end Simplex

def Graph.cheapestFlow (g : Graph) (n : CostNames) : Res (Num × Grid Num) := do
 if !g.directed then fail "Undirected graph not supported."
 if !(<- g.toUndirected.isConnected) then fail "Not connected graph not supported."
 if g.multi then fail "MultiDiGraph not supported."
 let demands <- (g.nodes.filterMap fun (_, r) => r.items.get? n.demand).mapM Value.num
 if !(sum demands).isZero then .error (.graph .unfeasible "Sum of the demands should be 0.")
 let mut s <- Simplex.start g n
 for _ in [0:100000] do
  let some new := s.entering? n | break
  s <- s.pivot n new
 for (u, v) in s.artificial do
  let some f := (s.network.data u v).get? "flow" | .error .noKey
  if !f == 0 then .error (.graph .unfeasible "No flow satisfying all demands.")
  s := { s with network := s.network.unlink u v }
 let table <- g.verts.mapM fun u => return (u, <- (g.nbrs u).mapM fun v => if s.network.hasEdge u v then return (v, <- s.flow u v) else return (v, 0))
 return (s.cost, table)

def CostFlow.cheapest (name : String) (view : Num × Grid Num -> Value) : Cmd :=
 .of name "G demand= capacity= weight=" fun g a =>
  return view (<- g.cheapestFlow ⟨a 1, a 2, a 3⟩)

def CostFlow.cmds : List Cmd := [
 cheapest "network_simplex" fun (c, t) => .tuple [c, Flow.grid t],
 cheapest "min_cost_flow_cost" (·.1),
 cheapest "min_cost_flow" (Flow.grid ·.2),
 .of "cost_of_flow" "G flowDict weight=" fun g a => do
  let at_ (v k : Value) : Res Value := do
   let .dict t := v | .error .badKind
   Table.get t k
  let xs <- g.edges.mapM fun e => do
   let x <- at_ (<- at_ (a 1) e.src) e.dst
   return (<- x.num) * (<- (e.get (a 2) 0).num)
  return (sum xs).value,
 .of "max_flow_min_cost" "G s t capacity= weight=" fun g a => do
  let (v, _) <- g.greatestFlow (a 1) (a 2) (a 3)
  let h <- (new true false).converted g
  let h := (h.setNodeAttr (a 1) "demand" (-v).value).setNodeAttr (a 2) "demand" v
  return Flow.grid (<- h.cheapestFlow { capacity := a 3, weight := a 4 }).2]

end DexLens.Network
