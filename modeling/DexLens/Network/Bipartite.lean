import DexLens.Network.Betweenness

/-! # Graphs with two sides -/

namespace DexLens.Network

open Graph Table Total

namespace Graph

variable (g : Graph)

def colouring : Res (Table Nat) := do
 let near v : Vals := if g.directed then g.conbrs v ++ g.nbrs v else g.nbrs v
 let mut colour : Table Nat := []
 for n in g.verts do
  if colour.has n || (g.adj n).isEmpty then continue
  let mut stack := [n]
  colour := colour ++ [(n, 1)]
  for _ in [0:g.order + 1] do
   let v :: rest := stack | break
   stack := rest
   let cv := colour.getD v 0
   for w in near v do
    match colour.get? w with
    | some cw => if cw = cv then fail "Graph is not bipartite."
    | none =>
     colour := colour ++ [(w, 1 - cv)]
     stack := w :: stack
 return colour.merge ((g.succ.keys.filter (g.degree · = 0)).map (·, 0))

def isBipartite : Bool :=
 if let .ok _ := g.colouring then true else false

def colourSets : Res (Vals × Vals) := do
 let c <- g.colouring
 return (keys (c.filter (·.2 = 1)), keys (c.filter (·.2 = 0)))

def twoSteps (v : Value) : Vals := (uniq ((g.nbrs v).flatMap g.nbrs)).filter (· != v)

end Graph

namespace Bipartite

variable (a : Args) (g : Graph)

def count (xs : Vals) : Float := ofInt xs.length

def overlap? (mode : Value) : Option (Vals -> Vals -> Float) :=
 let shared a b := count (common a b)
 if mode == "dot" then fun a b => shared a b / count (uniq (a ++ b))
 else if mode == "max" then fun a b => shared a b / max (count a) (count b)
 else if mode == "min" then fun a b => shared a b / min (count a) (count b)
 else none

def overlapCommand (mode : String) : Cmd :=
 ⟨"bipartite.cluster.cc_" ++ mode, "nu nv", fun a => do
  let (.set xs, .set ys) := (a 0, a 1) | throw .badKind
  if (if mode = "min" then xs.isEmpty || ys.isEmpty else xs.isEmpty && ys.isEmpty) then throw .byZero
  return .float (((overlap? (.text mode)).getD fun _ _ => 0) xs ys)⟩

def clusteringOf (ns : Vals) (mode : Value) : Res (Table Float) := do
 if !g.isBipartite then fail "Graph is not bipartite"
 let some f := overlap? (<- mode.key) | fail "Mode for bipartite clustering must be: dot, min or max"
 ns.mapM fun v => do
  discard (g.row v)
  let far := g.twoSteps v
  let cc := far.foldl (fun s u => s + f (g.nbrs u) (g.nbrs v)) 0.0
  return (v, if cc > 0.0 then cc / count far else cc)

def floats (t : Table Float) : Value := .dict ((ofList t).map fun (n, x) => (n, x))

def given (i : Nat) : Work Vals := if a.isNull i then pure g.verts else a.items i

def sides : Work (Vals × Vals) := do
 let top := uniq (<- (<- a.items 1).mapM (·.key))
 return (top, without g.verts top)

def fourCycles : Nat :=
 ofNats (g.verts.map fun v => ofNats ((pairsOf (g.nbrs v)).map fun (u, w) =>
  ((common (g.nbrs u) (g.nbrs w)).filter (· != v)).length))

def threePaths : Nat :=
 ofNats (g.verts.map fun v => ofNats ((g.nbrs v).map fun u =>
  ofNats (((g.nbrs u).filter (· != v)).map fun w => ((g.nbrs w).filter fun x => x != v && x != u).length)))

def greatestBetweenness (n m : Int) : Res Float := do
 if m = 0 then .error .byZero
 let s := .fdiv (n - 1) m
 let t := .fmod (n - 1) m
 return ofInt (m * m * ((s + 1) * (s + 1)) + m * (s + 1) * (2 * t - s - 1) - t * (2 * s - t + 3)) / 2.0

def betweenness : Work Value := do
 let g <- a.graph
 let (top, bottom) <- sides a g
 let maxTop <- greatestBetweenness top.length bottom.length
 let maxBottom <- greatestBetweenness bottom.length top.length
 let t <- g.betweennessSums g.verts .null .all false false
 let mut b : Table Float := t.nodes.map fun (n, x) => (n, if g.directed then x else x * (1.0 / 2.0))
 for (ns, bound) in [(top, maxTop), (bottom, maxBottom)] do
  for n in ns do
   if !b.has n then throw .noKey
   if bound == 0 then throw .byZero
   b := b.change n 0.0 (· / bound)
 return floats b

def closeness : Work Value := do
 let g <- a.graph
 let (top, bottom) <- sides a g
 let n := count top
 let m := count bottom
 let mut c : Table Float := []
 for (ns, best) in [(top, m + 2 * (n - 1)), (bottom, n + 2 * (m - 1))] do
  for v in ns do
   let ds := (<- g.distances v .null).values
   if ofNats ds > 0 && g.order > 1 then
    let x := best / ofInt (ofNats ds)
    let s := (ofInt ds.length - 1.0) / ofInt (g.order - 1 : Nat)
    c := c.put v (if a.truth 2 then x * s else x)
   else c := c.put n 0.0
 return floats c

structure Projection where
 (base whole : Graph)
 (nodes again : Vals)

def projection (multi : Bool) : Work Projection := do
 let b <- a.graph
 if b.multi then fail "not defined for multigraphs"
 let ns <- a.items 1
 let g := new b.directed multi
 let g := { g with attrs := { g.attrs with items := b.attrs.items } }
 let g <- ns.foldlM (fun g n => do return g.addNode n (<- b.nodes.get (<- n.key)).items) g
 let again := if let .stream _ := a 1 then [] else ns
 return ⟨g, b, ns, again⟩

def weighted (f : Graph -> Value -> Value -> Work Value) : Work Value := do
 let p <- projection a false
 let b := p.whole
 keep (<- p.again.foldlM (fun g u =>
  (b.twoSteps u).foldlM (fun g v => return g.addEdge u v [("weight", <- f b u v)]) g) p.base)

def projected : Work Value := do
 let multi := a.truth 2
 let p <- projection a multi
 let b := p.whole
 let g := p.again.foldl (fun g u =>
  (b.twoSteps u).foldl (fun g n =>
   if multi then
    (common (b.nbrs u) (b.conbrs n)).foldl (fun g l =>
     if (g.bundle? u n).any (·.items.has l) then g else g.addEdge u n [] (some l)) g
   else g.addEdge u n) g) p.base
 keep g

def projections : List Cmd := [
 ⟨"bipartite.projected_graph", "B nodes multigraph=False", projected⟩,
 ⟨"bipartite.project", "B nodes create_using?", fun a => projected ⟨[a 0, a 1, false]⟩⟩,
 ⟨"bipartite.weighted_projected_graph", "B nodes ratio=False", fun a => do
  let size <- a.size? 1
  let b <- a.graph
  if !b.multi && size.isNone then
   discard (projection a false)
   throw .badKind
  let others := ofInt (b.order - size.getD 0)
  weighted a fun b u v => do
   let k := (common (b.nbrs u) (b.conbrs v)).length
   if a.truth 2 then
    if others == 0 then throw .byZero
    return ofInt k / others
   return k⟩,
 ⟨"bipartite.collaboration_weighted_projected_graph", "B nodes", fun a =>
  weighted a fun b u v => do
   let shares := (common (b.nbrs u) (b.conbrs v)).filterMap fun n =>
    let k := (b.nbrs n).length
    if k > 1 then some (.float (1.0 / ofInt (k - 1 : Nat))) else none
   return Num.sum shares⟩,
 ⟨"bipartite.overlap_weighted_projected_graph", "B nodes jaccard=True", fun a =>
  weighted a fun b u v => do
   let (us, vs) := (b.nbrs u, b.conbrs v)
   let whole := if a.truth 2 then count (uniq (us ++ vs)) else min (count us) (count vs)
   return count (common us vs) / whole⟩,
 ⟨"bipartite.generic_weighted_projected_graph", "B nodes weight_function?", fun a => do
  let lab <- get
  weighted a fun b u v => do
   if a.isNull 2 then return (common (b.nbrs u) (b.conbrs v)).length
   lab.apply (a 2) [a 0, u, v]⟩]

def basics : List Cmd := [
 ⟨"bipartite.color", "G", colouring⟩,
 ⟨"bipartite.is_bipartite", "G", isBipartite⟩,
 ⟨"is_bipartite", "G", isBipartite⟩,
 .of "bipartite.is_bipartite_node_set" "G nodes" fun g a => do
  let s <- (<- a.items 1).mapM (·.key)
  let g <- a.graphNot "directed" <* pure g
  for c in <- g.components do
   let (x, y) <- (g.subgraph c).colourSets
   let fits (x y : Vals) : Bool := x.all s.contains && !y.any s.contains
   if !(fits x y || fits y x) then return false
  return true,
 .of "bipartite.sets" "G" fun g _ => do
  let (x, y) <- g.colourSets
  return .tuple [.set x, .set y],
 .of "bipartite.density" "B nodes" fun g a => do
  let nb : Int <- opt .badKind (<- a.size? 1)
  if g.size = 0 then return .float 0.0
  let pairs := ofInt (nb * (g.order - nb))
  if pairs == 0 then throw .byZero
  return ofInt g.size / if g.directed then 2.0 * pairs else pairs,
 .of "bipartite.degrees" "B nodes weight?" fun g a => do
  let (bottom, top) <- sides a g
  let degrees ns : Res Value := return <- g.degreesOf .both (a 2) (ns.filter g.succ.has)
  return .tuple [<- degrees top, <- degrees bottom]]

def measures : List Cmd := [
 overlapCommand "dot", overlapCommand "max", overlapCommand "min",
 .of "bipartite.clustering" "G nodes? mode=dot" fun g a =>
  return floats (<- clusteringOf g (<- given a g 1) (a 2)),
 .of "bipartite.latapy_clustering" "G nodes? mode=dot" fun g a =>
  return floats (<- clusteringOf g (<- given a g 1) (a 2)),
 .of "bipartite.average_clustering" "G nodes? mode=dot" fun g a => do
  let ns <- given a g 1
  let t <- clusteringOf g ns (a 2)
  if let .stream _ := a 1 then throw .badKind
  if ns.isEmpty then throw .byZero
  return .float (t.values.foldl (· + ·) 0.0 / count ns),
 .of "bipartite.robins_alexander_clustering" "G" fun g _ => do
  if g.order < 4 || g.size < 3 then return 0
  let paths := threePaths g
  if paths = 0 then return 0
  return 4.0 * (ofInt (fourCycles g) / 4) / (ofInt paths / 2),
 .of "bipartite.degree_centrality" "G nodes" fun g a => do
  let (top, bottom) <- sides a g
  if bottom.isEmpty || top.isEmpty then throw .byZero
  let shares ns s : Table Float := (ns.filter g.succ.has).map fun n => (n, ofInt (g.degree n) * s)
  return floats (shares top (1.0 / count bottom) ++ shares bottom (1.0 / count top)),
 ⟨"bipartite.betweenness_centrality", "G nodes", betweenness⟩,
 ⟨"bipartite.closeness_centrality", "G nodes normalized=True", closeness⟩,
 .of "bipartite.node_redundancy" "G nodes?" fun g a => do
  let t <- (<- given a g 1).mapM fun v => do
   let row <- g.row v
   let overlap := ((pairsOf row.keys).filter fun (u, w) => (common (g.nbrs u) (g.nbrs w)).any (· != v)).length
   let n := row.length
   let norm := if overlap > 0 then 2.0 / ofInt (n * (n - 1) : Nat) else 1.0
   return (v, ofInt overlap * norm)
  return floats t]

def cmds : List Cmd := basics ++ measures ++ projections

end Bipartite

end DexLens.Network
