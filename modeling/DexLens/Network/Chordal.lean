import DexLens.Network.Cycles

/-! # Chordal graphs and communities of cliques -/

namespace DexLens.Network

namespace Graph

variable (g : Graph) (start : Value)

def isComplete : Res Bool :=
 if !g.loopNodes.isEmpty then fail "Self loop found in _is_complete_graph()"
 else .ok (g.order < 2 || 2 * g.size == g.order * (g.order - 1))

def missingEdge : Value × Value :=
 (g.verts.findSome? fun u =>
  (g.verts.find? fun v => !v == u && !g.hasEdge u v).map (u, ·)).getD (.null, .null)

def mostJoined (choices among : Vals) : Value :=
 (choices.foldl (fun best x =>
  let k : Int := ((g.nbrs x).filter among.contains).length
  if k > best.2 then (x, k) else best) (.null, -1)).1

/-- Nodes in the order of the search, each with its neighbours before it. -/
def sweep : List (Value × Vals) := Id.run do
 let mut left := g.verts.filter (· != start)
 let mut numbered := [start]
 let mut out := #[]
 for _ in [0:g.order] do
  if left.isEmpty then break
  let v := g.mostJoined left numbered
  left := left.filter (· != v)
  numbered := numbered ++ [v]
  out := out.push (v, common (g.nbrs v) numbered)
 return out.toList

def chordBreaker (limit : Option Int) : Res (Option (Value × Value × Value)) := do
 let mut width : Int := -1
 for (v, wanted) in g.sweep start do
  let part := g.subgraph wanted
  if <- part.isComplete then
   width := max width wanted.length
   if let some top := limit then if width > top then .error (.graph .tooWide s!"treewidth_bound exceeded: {width}")
  else
   let (u, w) := part.missingEdge
   return (u, v, w)
 return none

def chordalCliques : Res (List Vals) := do
 let mut found := []
 let mut wanted := [start]
 for (v, next) in g.sweep start do
  if <- (g.subgraph wanted).isComplete then
   let next := including next v
   if !wanted.all next.contains then found := found ++ [wanted]
   wanted := next
  else fail "Input graph is not chordal."
 return found ++ [wanted]

end Graph

namespace Chordal

variable (g : Graph)

def isChordal : Work Bool := do
 if g.directed then fail "Directed graphs not supported"
 if g.multi then fail "Multiply connected graphs not supported."
 return (<- g.chordBreaker (<- draw (choice g.verts)) none).isNone

def mustBeChordal : Work Unit := do if !(<- isChordal g) then fail "Input graph is not chordal."

def cliques : Work (List Vals) := do
 mustBeChordal g
 let parts <- (<- g.components).mapM fun c => do
  let h := (g.subgraph c).copy
  if h.order == 1 then return [h.verts]
  h.chordalCliques (<- draw (choice h.verts))
 return parts.flatten

def inducedNodes (a : Args) : Work Value := do
 let g <- a.graph
 let (s, t) := (a 1, a 2)
 let limit <- if a.isNull 3 then pure none else some <$> a.int 3
 mustBeChordal g
 let mut h <- ({} : Graph).converted g
 h <- Edit.result h (.addEdge s t)
 let mut found := []
 for _ in [0:g.bound] do
  let some (u, v, w) <- h.chordBreaker s limit | break
  found := [u, v, w].foldl including found
  h := [u, v, w].foldl (fun h n => if n == s then h else h.addEdge s n) h
 if !found.isEmpty then
  found := including found t
  for (u, _) in <- g.row s do
   if (common found (g.nbrs u)).length == 2 then
    found := including found u
    break
 return .set found

def communities (k : Nat) (cs : List Vals) : List Vals :=
 let big := cs.filter (·.length ≥ k)
 let nodes := (List.range big.length).map Value.nat
 let joined := ((List.range big.length).flatMap fun i => (List.range i).filterMap fun j =>
  let c := big.getD i []
  let d := big.getD j []
  let k' := (common c d).length
  if k' > 0 && k' + 1 ≥ k then some (Value.nat i, Value.nat j) else none)
 let g := (({} : Graph).addNodes nodes).addEdges joined
 match g.components with
 | .ok parts => parts.map fun p =>
  uniq (p.flatMap fun i => if let .int i := i then big.getD i.toNat [] else [])
 | .error _ => []

def cmds : List Cmd := [
 ⟨"is_chordal", "G", isChordal⟩,
 ⟨"find_induced_nodes", "G s t treewidth_bound?", inducedNodes⟩,
 .of "chordal_graph_cliques" "G" fun g _ => return .set ((<- cliques g).map .set),
 .of "chordal_graph_treewidth" "G" fun g _ => do
  mustBeChordal g
  return .int ((<- cliques g).foldl (fun (m : Int) c => max m c.length) (-1) - 1),
 ⟨"k_clique_communities", "G k cliques?", fun a => do
  let k <- a.int 1
  if k < 2 then fail s!"k={k}, k must be greater than 1."
  let cs <- if a.isNull 2 then Cliques.maximal (<- a.graph) else (<- a.items 2).mapM .items
  return .list ((communities k.toNat (cs.map uniq)).map .set)⟩]

end Chordal

end DexLens.Network
