import DexLens.Network.Basics

/-! # Cliques: nodes that are all joined to one another -/

namespace DexLens.Network

open Work

variable (xs ys : Vals)

def common : Vals := xs.filter ys.contains

def without : Vals := xs.filter (!ys.contains ·)

namespace Graph

variable (g : Graph)

def pivot (cand : Vals) (best : Vals × Int) (ns : Vals) : Vals × Int :=
 ns.foldl (fun acc n =>
  let cn := common cand (g.others n)
  if cn.length > acc.2 then (cn, cn.length) else acc) best

def extendCliques : Nat -> Vals -> Vals -> Vals -> List Vals
 | 0, _, _, _ => []
 | fuel + 1, cand, done, sofar =>
  let fromDone := g.pivot cand ([], -1) done
  if !done.isEmpty && fromDone.2 == cand.length then []
  else
   let (around, _) := g.pivot cand fromDone cand
   let (found, _, _) := (without cand around).foldl
    (fun acc n =>
     let (found, cand, done) := acc
     let cand := cand.filter (· != n)
     let nn := g.others n
     let newCand := common cand nn
     let newDone := common done nn
     let more :=
      if newCand.isEmpty && newDone.isEmpty then [sofar ++ [n]]
      else if newDone.isEmpty && newCand.length == 1 then [sofar ++ [n] ++ newCand]
      else extendCliques fuel newCand newDone (sofar ++ [n])
     (found ++ more, cand, done ++ [n])) ([], cand, done)
   found

def cliques : List Vals := if g.succ.isEmpty then [] else g.extendCliques (g.order + 1) g.succ.keys [] []

end Graph

namespace Cliques

variable (a : Args) (g : Graph) (i : Nat)

def maximal : Work (List Vals) := do
 if g.directed then throw (.graph .unsupported "not implemented for directed type")
 return g.cliques

def given : Work Vals := if a.isNull i then return (<- maximal g).map .list else a.items i

def greatest (ns : List Nat) : Res Nat := opt .badVal ns.max?

def perNode (f : Value -> Work Value) : Work Value := do
 match if a.isNull i then .list g.verts else a i with
 | .list ns => return .dict (Table.ofList (<- ns.mapM fun n => return (<- n.key, <- f n)))
 | v => f v

def containing (cs : Vals) (v : Value) : Work Vals := do
 let lab <- get
 cs.filterM (Convert.isAmong lab v ·)

def dst (base name : Value) : Work Value := do
 let ref <- if let some g := (<- get).graph? base then
   if g.nodes.isEmpty then keep {}
   else if g.frozen then throw Method.frozenFault
   else
    update base g.clear
    pure base
  else if base.truth then throw .noPart else keep {}
 if !name.isNull then update ref ((<- graph ref).setAttr "name" name)
 return ref

def cliqueGraph : Work Value := do
 let cs <- maximal (<- a.graph)
 let ref <- dst (a 1) (a 2)
 edit ref do
  for (c, i) in cs.zipIdx do
   modify (·.addNode (.nat (i + 1)))
   for (d, j) in (cs.take i).zipIdx do if !(common c d).isEmpty then .addEdge (.nat (i + 1)) (.nat (j + 1))
 return ref

def bipartite : Work Value := do
 let g <- a.graph
 let cs <- maximal g
 let ref <- dst (a 2) (a 3)
 let b <- graph ref
 let b := b.addNodes g.verts
 if a.truth 1 && cs.isEmpty then throw .byZero
 let b <- cs.zipIdx.foldlM (fun b (c, i) => do
  let name := .int (-i - 1)
  let b := b.addNode name
  let b := b.addEdges (c.map (name, ·))
  if !a.isNull 1 && !a.truth 1 then throw .noPart
  return b) b
 let bottoms := g.verts.map (·, false)
 let tops := (List.range cs.length).map fun i => (.int (-i - 1), true)
 update ref { b with sides := some (.ofList (bottoms ++ tops)) }
 return ref

def project (top : Bool) (a : Args) : Work Value := do
 let b <- a.graph
 let ref <- dst (a 1) (a 2)
 let rename (v : Value) : Res Value := if top then do return (-(<- v.num)).value else .ok v
 for (v, row) in b.succ do
  let sides <- opt .noPart b.sides
  if (<- sides.get v) == top then
   let name <- rename v
   edit ref (.addNode name)
   for (w, _) in row do
    edit ref (.addEdgesFrom (<- ((b.nbrs w).filter (· != v)).mapM fun u => return .tuple [name, <- rename u]))
 return ref

def cmds : List Cmd := [
 ⟨"find_cliques", "G", fun a => return .list ((<- a.graphNot "directed").cliques.map .list)⟩,
 .of "find_cliques_recursive" "G" fun g _ => return .list (g.cliques.map .list),
 ⟨"make_max_clique_graph", "G create_using? name?", cliqueGraph⟩,
 ⟨"make_clique_bipartite", "G fpos? create_using? name?", bipartite⟩,
 ⟨"project_down", "B create_using? name?", project false⟩,
 ⟨"project_up", "B create_using? name?", project true⟩,
 .of "graph_clique_number" "G cliques?" fun g a => do
  let cs <- given a g 1
  return <- greatest (<- cs.mapM (opt .badKind ·.size?)),
 .of "graph_number_of_cliques" "G cliques?" fun g a => do
  if a.isNull 1 then return (<- given a g 1).length
  return <- opt .badKind (a 1).size?,
 .of "node_clique_number" "G nodes? cliques?" fun g a => do
  if a.isNull 2 && !a.isNull 1 then
   perNode a g 1 fun n => return <- greatest ((<- maximal (<- g.ego n 1 true false .null)).map (·.length))
  else
   let cs <- given a g 2
   perNode a g 1 fun v => return <- greatest (<- (<- containing cs v).mapM (opt .badKind ·.size?)),
 .of "number_of_cliques" "G nodes? cliques?" fun g a => do
  let cs <- given a g 2
  perNode a g 1 fun v => return (<- containing cs v).length,
 .of "cliques_containing_node" "G nodes? cliques?" fun g a => do
  let cs <- given a g 2
  perNode a g 1 fun v => return <- containing cs v]

end Cliques

end DexLens.Network

/-! # Cores: parts in which every node has many neighbours -/

namespace DexLens.Network

namespace Graph

structure CoreState where
 nodes : Array Value
 position : Table Nat
 starts : Array Nat
 core : Table Nat
 nbrs : Table Vals

def CoreState.lower (s : CoreState) (v u : Value) : CoreState :=
 let cu := s.core.getD u 0
 if cu ≤ s.core.getD v 0 then s
 else
  let pos := s.position.getD u 0
  let start := s.starts.getD cu 0
  let other := s.nodes.getD start .null
  { nodes := s.nodes.swapIfInBounds start pos
    position := (s.position.put u start).put other pos
    starts := s.starts.setIfInBounds cu (start + 1)
    core := s.core.put u (cu - 1)
    nbrs := s.nbrs.change u [] (·.filter (· != v)) }

def coreNumbers (g : Graph) : Res (Table Nat) := do
 if g.multi then fail "MultiGraph and MultiDiGraph types not supported."
 if !g.loopNodes.isEmpty then
  fail ("('Input graph has self loops; the core number is not defined.', " ++
   "'Consider using G.remove_edges_from(G.selfloop_edges()).')")
 let degrees : Table Nat := g.succ.keys.map fun n => (n, g.degree n)
 let sorted := Table.keys (degrees.mergeSort (·.2 ≤ ·.2))
 let starts := sorted.zipIdx.foldl (fun (acc : Array Nat × Nat) (v, i) =>
  let d := degrees.getD v 0
  if d > acc.2 then (acc.1 ++ .replicate (d - acc.2) i, d) else acc) (#[0], 0)
 let nbrs := g.verts.map fun v =>
  (v, if g.directed then uniq (g.conbrs v ++ g.nbrs v) else g.nbrs v)
 let s := {
  nodes := sorted.toArray
  position := sorted.zipIdx
  starts := starts.1
  core := degrees
  nbrs }
 let final := (List.range sorted.length).foldl (fun (s : CoreState) i =>
  let v := s.nodes.getD i .null
  (s.nbrs.getD v []).foldl (·.lower v ·) s) s
 return final.core

end Graph

namespace Cores

def numbers (a : Args) (g : Graph) (i : Nat) : Work Items := do
 if a.isNull i then return (<- g.coreNumbers).map fun (n, k) => (n, k)
 a.dict i

def part (a : Args) (kNone : Value -> Res Value) (test : Value -> Value -> Res Bool) : Work Value := do
 let g <- a.graph
 let t <- numbers a g 2
 let k <- if a.isNull 1 then do kNone (<- Value.greatest t.values) else pure (a 1)
 let ns <- t.filterM fun (_, c) => test c k
 keep (g.subgraph (Table.keys ns)).copy

def atLeast (c k : Value) : Res Bool := return (<- k.num).le (<- c.num)

def cmds : List Cmd := [
 ⟨"core_number", "G", Graph.coreNumbers⟩,
 ⟨"find_cores", "G", Graph.coreNumbers⟩,
 ⟨"k_core", "G k? core_number?", (part · .ok atLeast)⟩,
 ⟨"k_shell", "G k? core_number?", fun a => part a .ok fun c k => .ok (c == k)⟩,
 ⟨"k_crust", "G k? core_number?", fun a => part a (fun v => return ((<- v.num) - 1).value) fun c k => atLeast k c⟩,
 .of "k_corona" "G k core_number?" fun g a => do
  let t <- numbers a g 2
  let k := a 1
  let ns <- t.filterM fun (n, c) => do
   if !(<- atLeast c k) then return false
   return (<- (<- g.row n).keys.filterM fun v => do atLeast (<- t.get v) k).length == k
  keep (g.subgraph (Table.keys ns)).copy]

end Cores

end DexLens.Network
