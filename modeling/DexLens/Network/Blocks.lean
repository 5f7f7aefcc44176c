import DexLens.Network.Swap

/-! # Blocks of nodes, graphs of edges, and narrow orderings -/

namespace DexLens.Network

namespace Graph

variable (g : Graph) (start : Value)

def edgeNode (e : Edge) : Value := .tuple ([e.src, e.dst] ++ e.key.toList)

def ascending (a b : Value) : Res (Value × Value) := return if <- Value.less b a then (b, a) else (a, b)

def lineGraph : Edit Unit := do
 if g.directed then
  for e in g.edges do
   .addNode (edgeNode e)
   for f in g.edgesOf [e.dst] do .addEdge (edgeNode e) (edgeNode f)
 else
  let mut pairs := []
  for u in g.verts do
   let es <- (g.edgesOf [u]).mapM fun e => do
    let (a, b) <- ascending e.src e.dst
    return edgeNode { e with src := a, dst := b }
   if let [e] := es then .addNode e
   for (a, b) in pairsOf es do
    let (a, b) <- ascending a b
    if !pairs.any fun p => p.1 == a && p.2 == b then pairs := pairs ++ [(a, b)]
  .addEdgesFrom (pairs.map .couple)

def farFrom (u : Value) : Res Value := do
 let mut v := u
 let mut best := 0
 for _ in [0:g.order + 1] do
  let spl <- g.distances v .null
  let l := spl.values.foldl max 0
  if l ≤ best then break
  best := l
  let far := Table.keys (spl.filter (·.2 == l))
  let low := (far.map g.degree).foldl min (g.degree (far.headD u))
  v := (far.find? (g.degree · == low)).getD u
 return v

def narrowOrder : Res Vals := do
 let start <- if start.isNull then do g.farFrom (<- opt .exhausted g.verts.head?) else start.key
 let mut out := [start]
 let mut queue := [(<- g.row start).keys]
 for _ in [0:g.order + 1] do
  let kids :: rest := queue | break
  queue := rest
  for c in kids do
   if !out.contains c then
    out := out ++ [c]
    let sorted := (g.nbrs c).mergeSort (g.degree · ≤ g.degree ·)
    queue := queue ++ [sorted]
 return out

def narrowOrders : Res Vals :=
 return (<- (<- g.components).mapM fun c => (g.subgraph c).narrowOrder start).flatten

end Graph

namespace Blocks

def blockmodel (a : Args) : Work Value := do
 let g <- a.graph
 let parts <- (<- a.items 1).mapM fun p => return uniq (<- (<- .items p).mapM (·.key))
 discard <| parts.foldlM (fun seen p => do
  if p.any seen.contains then throw (.graph .general "Overlapping node partitions.")
  return seen ++ p) []
 let mut m := Graph.new g.directed (a.truth 2)
 let mut home : Table Value := []
 for (p, i) in parts.zipIdx do
  let sg := g.subgraph p
  m := m.addNode i [("graph", <- keep sg), ("nnodes", sg.order), ("nedges", sg.size),
   ("density", sg.density)]
  for n in sg.verts do home := home.put n i
 for e in g.edges do
  let u <- home.get e.src
  let v <- home.get e.dst
  if u == v then continue
  if a.truth 2 then m := m.addEdge u v e.items
  else
   let w := e.get "weight" (.float 1.0)
   if m.hasEdge u v then m := m.setEdgeAttr u v "weight" (<- ((m.data u v).getD "weight" 0).sum w)
   else m := m.addEdge u v [("weight", w)]
 keep m

def lineGraph (a : Args) : Work Value := do
 let g <- a.graph
 let ref <- if a.isNull 1 then keep g.emptyLike else pure (a 1)
 .edit ref g.lineGraph
 return ref

def cmds : List Cmd := [
 ⟨"blockmodel", "G partitions multigraph=False", blockmodel⟩,
 ⟨"line_graph", "G create_using?", lineGraph⟩,
 ⟨"utils.cuthill_mckee_ordering", "G start?", fun a => return <- (<- a.graphNot "directed").narrowOrders (a 1)⟩,
 ⟨"utils.rcm.connected_cuthill_mckee_ordering", "G start?", Graph.narrowOrder⟩,
 .of "utils.rcm.find_pseudo_peripheral_node_pair" "G start?" fun g a => do
  let u <- if a.isNull 1 then opt .exhausted g.verts.head? else (a 1).key
  return .tuple [u, <- g.farFrom u],
 ⟨"utils.reverse_cuthill_mckee_ordering", "G start?", fun a =>
  return (<- (<- a.graphNot "directed").narrowOrders (a 1)).reverse⟩]

end Blocks

end DexLens.Network
