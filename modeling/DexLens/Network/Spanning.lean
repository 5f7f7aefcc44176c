import DexLens.Network.Chordal

/-! # Spanning trees -/

namespace DexLens.Network

open Value

structure UnionFind where
 weights : Table Nat := []
 parents : Table Value := []

namespace UnionFind

variable (u : UnionFind)

def way : Nat -> Value -> Vals
 | 0, _ => []
 | fuel + 1, v =>
  let p := u.parents.getD v v
  if p == v then [v] else v :: way fuel p

def find (v : Value) : Value × UnionFind :=
 match u.parents.get? v with
 | none => (v, { weights := u.weights.put v 1, parents := u.parents.put v v })
 | some _ =>
  let path := u.way (u.parents.length + 1) v
  let root := path.getLastD v
  (root, { u with parents := path.foldl (.put · · root) u.parents })

def union (vs : Vals) : Res UnionFind := do
 let (roots, u) := vs.foldl (fun acc v =>
  let (r, u) := acc.2.find v
  (acc.1 ++ [r], u)) ([], u)
 let weight (u : UnionFind) r : Nat := u.weights.getD r 0
 let (_, heaviest) <- (<- greatest (roots.map fun r => .tuple [.nat (weight u r), r])).two
 return roots.foldl (fun u r =>
  if r == heaviest then u
  else
   { weights := u.weights.put heaviest (weight u heaviest + weight u r)
     parents := u.parents.put r heaviest }) u

end UnionFind

namespace Graph

variable (g : Graph) (weight : Value)

def noDirected : Res Unit :=
 if g.directed then fail "Mimimum spanning tree not defined for directed graphs." else .ok ()

def spanningEdges : Res (List Edge) := do
 g.noDirected
 let es <- sortBy (fun e f => less (e.get weight 1) (f.get weight 1)) g.edges
 let mut sets : UnionFind := {}
 let mut out := #[]
 for e in es do
  let (a, s) := sets.find e.src
  let (b, s) := s.find e.dst
  sets := s
  if !a == b then
   out := out.push e
   sets <- sets.union [e.src, e.dst]
 return out.toList

def grownEdges : Res (List Edge) := do
 g.noDirected
 let entry u v : Value := .tuple [(g.data u v).getD weight 1, u, v]
 let mut left := g.verts
 let mut out := #[]
 for _ in [0:g.order + 1] do
  let start :: rest := left | break
  left := rest
  let mut visited := [start]
  let mut frontier := #[]
  for e in rowEdges start (g.adj start) do frontier <- Heap.push less frontier (entry start e.dst)
  for _ in [0:g.bound] do
   let some (.tuple [_, u, v], rest) <- Heap.pop? less frontier | break
   frontier := rest
   if visited.contains v then continue
   visited := visited ++ [v]
   if !left.contains v then .error .badVal
   left := left.erase v
   for e in rowEdges v (g.adj v) do
    if !visited.contains e.dst then frontier <- Heap.push less frontier (entry v e.dst)
   out := out.push ⟨u, v, none, g.data u v⟩
 return out.toList

def edgeList : Res (List Edge) -> Res (List Edge)
 | .ok es => .ok es
 | .error _ => fail "Input is not a valid edge list"

def treeOf (es : Res (List Edge)) : Res Graph := do
 let es <- edgeList es
 let t := es.foldl (fun t e => t.addEdge e.src e.dst e.items) ({} : Graph)
 let t := if t.order != g.order then t.addNodes (g.succ.keys.filter (g.degree · = 0)) else t
 let nodes := t.nodes.zipIdx.map fun ((n, _), i) => (n, (⟨t.next + 1 + i, g.nodeItems n⟩ : Record))
 return { t with nodes, attrs := ⟨t.next, g.attrs.items⟩, next := t.next + 1 + nodes.length }

end Graph

section

variable (name : String) (es : Graph -> Value -> Res (List Edge))

def Spanning.edges : Cmd := .of name "G weight= data=True" fun g a =>
 return (<- es g (a 1)).map (·.value false (a.truth 2))

def Spanning.tree : Cmd := .of name "G weight=" fun g a => do keep (<- g.treeOf (es g (a 1)))

end

def Spanning.cmds : List Cmd := [
 edges "minimum_spanning_edges" Graph.spanningEdges,
 tree "minimum_spanning_tree" Graph.spanningEdges,
 tree "kruskal_mst" Graph.spanningEdges,
 edges "prim_mst_edges" Graph.grownEdges,
 tree "prim_mst" Graph.grownEdges,
 .of "s_metric" "G normalized=True" fun g a => do
  if a.truth 1 then fail "Normalization not implemented"
  return .float (ofInt (Total.ofNats (g.edges.map fun e => g.degree e.src * g.degree e.dst))),
 .of "is_dominating_set" "G nbunch" fun g a => do
  let ns := (<- a.items 1).filter g.contains
  let near := ns ++ ns.flatMap g.nbrs
  return .bool (g.verts.all near.contains),
 .of "dominating_set" "G start_with?" fun g a => do
  let v <- if a.isNull 1 then opt .noKey g.verts.head? else do
    if !g.contains (a 1) then fail ("node " ++ (<- (a 1).filling) ++ " not in G")
    pure (a 1)
  let (chosen, _) := (List.range g.order).foldl (fun acc _ =>
   let (d, nd) := acc
   match (without (without g.verts nd) d) with
   | [] => acc
   | w :: _ =>
    let d := d ++ [w]
    (d, nd ++ without (g.nbrs w) d)) ([v], g.nbrs v)
  return .set chosen]

end DexLens.Network
