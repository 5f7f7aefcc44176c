import DexLens.Network.Matching

/-! # How many shortest paths lead through a node or an edge -/

namespace DexLens.Network

open Graph Table Value

namespace Graph

variable (g : Graph) (s weight : Value) (n : Nat)

/-- Nodes in the order of their distance, the nodes before each, and the number of shortest paths to it. -/
structure Counting where
 order : Vals := []
 pred : Table Vals
 sigma : Table Float

namespace Counting

def start (g : Graph) (s : Value) : Res Counting :=
 return { pred := g.verts.map (·, []), sigma := put (g.verts.map (·, 0.0)) (<- s.key) 1.0 }

def paths (c : Counting) (v : Value) : Float := c.sigma.getD v 0.0

def before (c : Counting) (v : Value) : Vals := c.pred.getD v []

end Counting

def countPaths (s : Value) : Res Counting := do
 let mut c <- Counting.start g s
 let mut dist : Table Nat := [(s, 0)]
 let mut queue := [s]
 for _ in [0:g.order + 1] do
  let v :: rest := queue | break
  queue := rest
  c := { c with order := c.order ++ [v] }
  let d := dist.getD v 0
  let sv := c.paths v
  for (w, _) in <- g.row v do
   if !dist.has w then
    queue := queue ++ [w]
    dist := dist ++ [(w, d + 1)]
   if dist.get? w == some (d + 1) then
    c := { c with
     sigma := c.sigma.change w 0.0 (· + sv)
     pred := c.pred.change w [] (· ++ [v]) }
 return c

def countWeightedPaths : Res Counting := do
 let mut c <- Counting.start g s
 let mut dist : Table Num := []
 let mut seen : Table Num := [(s, 0)]
 let mut queue := #[.tuple [0, s, s]]
 for _ in [0:g.bound] do
  let some (.tuple [d, p, v], rest) <- Heap.pop? less queue | break
  queue := rest
  if dist.has v then continue
  let d <- d.num
  let sp := c.paths p
  c := { c with sigma := c.sigma.change v 0.0 (· + sp), order := c.order ++ [v] }
  dist := dist ++ [(v, d)]
  for (w, b) in <- g.row v do
   let total := d + (<- (b.items.getD weight 1).num)
   let old := seen.get? w
   if !dist.has w && (match old with | none => true | some x => total.lt x) then
    seen := seen.put w total
    queue <- Heap.push less queue (.tuple [total, v, w])
    c := { c with sigma := c.sigma.put w 0.0, pred := c.pred.put w [v] }
   else if old == some total then
    let sv := c.paths v
    c := { c with sigma := c.sigma.change w 0.0 (· + sv), pred := c.pred.change w [] (· ++ [v]) }
 return c

def countFrom : Res Counting := if weight.isNull then g.countPaths s else g.countWeightedPaths s weight

inductive Share where
 | all
 | dsts (ns : Vals)

def Share.of (share : Share) (c : Counting) (delta : Table Float) (v w : Value) : Res Float := do
 let dw := delta.getD w 0.0
 let .dsts ns := share | return c.paths v * (<- quotient (1.0 + dw) (c.paths w))
 if ns.contains w then return (<- quotient (c.paths v) (c.paths w)) * (1.0 + dw)
 return dw / ofInt (c.before w).length
where
 quotient a b : Res Float := if b == 0 then .error .byZero else .ok (a / b)

structure Sums where
 (nodes edges : Table Float)

def Sums.add (t : Sums) (c : Counting) (s : Value) (share : Share) (ends edges : Bool) : Res Sums := do
 let mut t := t
 let mut delta : Table Float := c.order.map (·, 0.0)
 if ends then t := { t with nodes := t.nodes.change s 0.0 (· + ofInt (c.order.length - 1 : Int)) }
 for w in c.order.reverse do
  if let .all := share then if c.paths w == 0 then .error .byZero
  for v in c.before w do
   let x <- share.of c delta v w
   if edges then
    let key := if t.edges.has (.tuple [v, w]) then tuple [v, w] else .tuple [w, v]
    if !t.edges.has key then .error .noKey
    t := { t with edges := t.edges.change key 0.0 (· + x) }
   delta := delta.change v 0.0 (· + x)
  if w != s then
   let d := delta.getD w 0.0
   t := { t with nodes := t.nodes.change w 0.0 (· + if ends then d + 1 else d) }
 return t

def betweennessSums (starts : Vals) (weight : Value) (share : Share) (ends edges : Bool) : Res Sums:=
 let zero := {
  nodes := g.verts.map (·, 0.0)
  edges := ofList (g.edges.map (·.ends, 0.0)) }
 starts.foldlM (fun t s => do t.add (<- g.countFrom s weight) s share ends edges) zero

/-- The share of a pair of other nodes. -/
def pairShare : Option Float := if n ≤ 2 then none else some (1.0 / ofInt ((n - 1) * (n - 2) : Nat))

def rescaling (normalized : Value) (directed edges : Bool) : Option Float :=
 if let .bool true := normalized then
  if edges then if n ≤ 1 then none else some (1.0 / ofInt (n * (n - 1) : Nat))
  else pairShare n
 else if directed then none else some (1.0 / 2.0)

def scaled (t : Table Float) (scale : Option Float) : Items := t.map fun (k, x) => (k, .float (scale.elim x (x * ·)))

def loadFrom (src cutoff weight : Value) : Res (Table Float) := do
 let (pred, dist) <- if weight.isNull then do
  let (p, d) <- g.pathPredecessors src cutoff
  pure (p, d.map fun (n, k) => (n, .int k))
  else do
   let s <- g.searchByWeight src .null .null weight
   pure (s.pred, s.dist)
 let sorted <- sorted (dist.map fun (n, d) => .tuple [d, n])
 let far <- sorted.filterMapM fun p => do
  let (d, n) <- p.two
  return if Num.lt 0 (<- d.num) then n else none
 let mut load : Table Float := dist.map fun (n, _) => (n, 1.0)
 for v in far.reverse do
  let ps := pred.getD v []
  for x in ps do
   if x == src then break
   let lv := load.getD v 0.0
   load := load.change x 0.0 (· + lv / ofInt ps.length)
 return load.map fun (n, x) => (n, x - 1)

def edgeLoadFrom (src : Value) (edges : List Edge) (cutoff : Value) : Res (Table Float) := do
 let (pred, dist) <- g.pathPredecessors src cutoff
 let sorted <- sorted (dist.map fun (n, d) => .tuple [d, n])
 let mut load := edges.foldl (fun t e =>
  put (put t (.tuple [e.src, e.dst]) 1.0) (.tuple [e.dst, e.src]) 1.0) []
 for p in sorted.reverse do
  let (_, v) <- p.two
  for w in pred.getD v [] do
   let xs := pred.getD w []
   for x in xs do
    for (a, b, c) in [(w, x, (v, w)), (x, w, (w, v))] do
     let from_ <- load.get (.tuple [c.1, c.2])
     if !load.has (.tuple [a, b]) then .error .noKey
     load := load.change (.tuple [a, b]) 0.0 (· + from_ / ofInt xs.length)
 return load

end Graph

namespace Betweenness

variable (a : Args)

def central : Work Value := do
 let g <- a.graph
 let starts <- if a.isNull 1 then pure g.verts else do
  reseed (a 5)
  draw (.sample g.verts (<- a.int 1))
 let t <- g.betweennessSums starts (a 3) .all (a.truth 4) false
 let scale <- (rescaling g.order (a 2) g.directed false).mapM fun s => do
  if a.isNull 1 then return s
  return (<- (Num.float (s * ofInt g.order)).div (<- a.num 1)).toFloat
 return scaled t.nodes scale

def edgeCentral : Work Value := do
 let g <- a.graph
 return scaled (<- g.betweennessSums g.verts (a 2) .all false true).edges (rescaling g.order (a 1) g.directed true)

def subset (edges : Bool) (a : Args) : Work Value := do
 let g <- a.graph
 let srcs <- a.items 1
 let dsts <- if srcs.isEmpty then pure [] else (do (<- a.items 2).mapM (·.key))
 let t <- g.betweennessSums srcs (a 4) (.dsts dsts) false edges
 let scale := rescaling g.order (a 3) g.directed edges
 return scaled (if edges then t.edges else t.nodes) scale

def load : Work Value := do
 let g <- a.graph
 let loads <- g.verts.mapM (g.loadFrom · (a 2) (a 4))
 let scale := if a.truth 3 then pairShare g.order else none
 if a.isNull 1 then
  let zero : Table Float := g.verts.map (·, 0.0)
  let sums := loads.foldl (fun t l => l.foldl (fun t (n, x) => change t n 0.0 (· + x)) t) zero
  return scaled sums scale
 else
  let v <- (a 1).key
  let x := loads.foldl (· + ·.getD v 0.0) 0.0
  return .float (scale.elim x (x * ·))

def edgeLoad : Work Value := do
 let g <- a.graph
 let given := if (a 1).truth then a 1 else g.verts
 let ns <- .items given
 let loads <- ns.mapM fun s => do g.edgeLoadFrom s (g.edgesOf (<- g.bunch given ns)) (a 2)
 let sums := loads.foldl (fun t l => l.foldl (fun t (e, x) => change t e 0.0 (x + ·)) t) []
 return .dict (sums.map fun (e, x) => (e, x))

def vitality : Work Value := do
 let g <- a.graph
 let whole <- g.distanceSum (a 1)
 let ref := a 0
 let t <- g.verts.mapM fun n => do
  let g <- a.graph
  if g.frozen then throw Method.frozenFault
  let es := g.edgesOf [n] ++ if g.directed then g.inEdgesOf [n] else []
  let listed := es.map (·.value g.multi true)
  .edit ref (.removeEdgesFrom listed)
  let left <- (<- a.graph).distanceSum (a 1)
  .edit ref (.addEdgesFrom listed)
  return (n, float (whole - left))
 return t

def degreeShares (side : Side) (name : String) (a : Args) : Work Value := do
 let g <- a.graph
 if side != .both && !g.directed then fail (name ++ "() not defined for undirected graphs.")
 let d := ofInt g.order - 1.0
 if d == 0 then throw .byZero
 let s := 1.0 / d
 let t <- g.degreesOf side .null (if side = .entering then g.pred.keys else g.succ.keys)
 return .dict (<- t.mapM fun (n, v) => return (n, (<- v.num).toFloat * s))

def closeness : Work Value := do
 let g <- a.graph
 let at_ n : Res Float := do
  let ds <- if (a 2).isNull then pure ((<- g.distances n .null).values.map (.int ·))
   else pure (<- g.dijkstraDistances n .null (a 2)).values
  let total := (Num.sum ds).toFloat
  let k := ofInt ds.length - 1.0
  if total > 0.0 && g.order > 1 then
   let c := k / total
   return if a.truth 3 then c * (k / ofInt (g.order - 1 : Nat)) else c
  else return 0.0
 if a.isNull 1 then return .dict (<- g.verts.mapM fun n => return (n, .float (<- at_ n)))
 return <- at_ (a 1)

def cmds : List Cmd := [
 ⟨"degree_centrality", "G", degreeShares .both "degree_centrality"⟩,
 ⟨"in_degree_centrality", "G", degreeShares .entering "in_degree_centrality"⟩,
 ⟨"out_degree_centrality", "G", degreeShares .leaving "out_degree_centrality"⟩,
 ⟨"closeness_centrality", "G u? distance? normalized=True", closeness⟩,
 ⟨"betweenness_centrality", "G k? normalized=True weight? endpoints=False seed?", central⟩,
 ⟨"edge_betweenness_centrality", "G normalized=True weight?", edgeCentral⟩,
 ⟨"edge_betweenness", "G normalized=True weight?", edgeCentral⟩,
 ⟨"betweenness_centrality_subset", "G sources targets normalized=False weight?", subset false⟩,
 ⟨"edge_betweenness_centrality_subset", "G sources targets normalized=False weight?", subset true⟩,
 .of "betweenness_centrality_source" "G normalized=True weight? sources?" fun g a => do
  let all := list g.verts
  subset false ⟨[a 0, if a.isNull 3 then all else a 3, all, a 1, a 2]⟩,
 ⟨"load_centrality", "G v? cutoff? normalized=True weight?", load⟩,
 ⟨"newman_betweenness_centrality", "G v? cutoff? normalized=True weight?", load⟩,
 .of "algorithms.centrality.load._node_betweenness" "G source cutoff=False normalized=True weight?" fun g a => do
  let t <- g.loadFrom (a 1) (a 2) (a 4)
  return scaled t (if a.truth 3 then pairShare t.length else none),
 .of "algorithms.centrality.load._edge_betweenness" "G source nodes cutoff=False" fun g a => do
  let among <- g.bunch (a 2) (<- a.items? 2)
  return .dict ((<- g.edgeLoadFrom (a 1) (g.edgesOf among) (a 3)).map fun (e, x) => (e, x)),
 ⟨"edge_load", "G nodes? cutoff=False", edgeLoad⟩,
 ⟨"closeness_vitality", "G weight?", vitality⟩,
 ⟨"weiner_index", "G weight?", distanceSum⟩]

end Betweenness

end DexLens.Network
