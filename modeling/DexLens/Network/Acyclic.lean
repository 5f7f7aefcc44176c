import DexLens.Network.Paths.Weighted

/-! # Directed graphs without cycles -/

namespace DexLens.Network

namespace Graph

variable (g : Graph) (starts : Vals)

def cyclic {α : Type} : Res α := .error (.graph .unfeasible "Graph contains a cycle.")

def sortable : Res Unit :=
 if g.directed then .ok () else fail "Topological sort not defined on undirected graphs."

def topologicalOrder : Res Vals := do
 g.sortable
 let mut seen := []
 let mut explored := []
 for v in starts do
  if explored.contains (<- v.key) then continue
  let mut fringe := [v]
  for _ in [0:g.bound] do
   let w :: rest := fringe | break
   if explored.contains w then
    fringe := rest
    continue
   seen := including seen w
   let new := (<- g.row w).keys.filter (!explored.contains ·)
   if new.any seen.contains then cyclic
   if new.isEmpty then
    explored := w :: explored
    fringe := rest
   else fringe := new.reverse ++ fringe
 return explored

structure Ordering where
 ancestors : Vals := []
 explored : Vals := []

def visitOrdered (g : Graph) : Nat -> Ordering -> Value -> Res Ordering
 | 0, s, _ => .ok s
 | fuel + 1, s, v => do
  let s := { s with ancestors := v :: s.ancestors }
  let s <- (<- g.row v).keys.foldlM (fun s w => do
   if s.ancestors.contains w then cyclic
   if s.explored.contains w then return s else g.visitOrdered fuel s w) s
  return { ancestors := s.ancestors.filter (· != v), explored := v :: s.explored }

def topologicalOrderRecursive : Res Vals := do
 g.sortable
 let s <- starts.foldlM (fun s v => do
  if s.explored.contains (<- v.key) then return s else g.visitOrdered (g.order + 1) s v) {}
 return s.explored

def isAcyclic : Res Bool :=
 if !g.directed then .ok false
 else
  match g.topologicalOrder g.verts with
  | .ok _ => .ok true
  | .error (.graph .unfeasible _) => .ok false
  | .error f => .error f

def period (start : Value) : Nat × Vals := Id.run do
 let mut levels : Table Nat := [(start, 0)]
 let mut current := [start]
 let mut d := 0
 for l in [1:g.order + 2] do
  if current.isEmpty then break
  let mut next := []
  for u in current do
   for v in g.nbrs u do
    if let some k := levels.get? v then d := .gcd d (levels.getD u 0 + 1 - k)
    else
     next := next ++ [v]
     levels := levels ++ [(v, l)]
  current := next
 return (d, levels.keys)

def isAperiodic : Nat -> Graph -> Res Bool
 | 0, _ => .error .exhausted
 | fuel + 1, g => do
  let s :: _ := g.verts | .error .exhausted
  let (d, reached) := g.period s
  if reached.length == g.order then .ok (d == 1)
  else if d != 1 then .ok false
  else isAperiodic fuel (g.subgraph (g.verts.filter (!reached.contains ·)))

end Graph

namespace Acyclic

def reached (v : Value) (t : Table Nat) : Value := .set (t.keys.filter (· != v))

def bunch (g : Graph) (a : Args) (i : Nat) : Work Vals := if a.isNull i then pure g.verts else a.items i

def kin (name : String) (turned : Graph -> Graph) : Cmd :=
 .of name "G source" fun g a => do
  if !g.contains (a 1) then fail ("The node " ++ (<- (a 1).filling) ++ " is not in the graph.")
  return reached (a 1) (<- (turned g).distances (a 1) .null)

def sorting (name : String) (order : Graph -> Vals -> Res Vals) : Cmd :=
 .of name "G nbunch?" fun g a => do
  g.sortable
  return <- order g (<- bunch g a 1)

def cmds : List Cmd := [
 kin "descendants" id, kin "ancestors" fun g => if g.directed then g.flip else g,
 ⟨"is_directed_acyclic_graph", "G", Graph.isAcyclic⟩,
 sorting "topological_sort" Graph.topologicalOrder,
 sorting "topological_sort_recursive" Graph.topologicalOrderRecursive,
 .of "is_aperiodic" "G" fun g _ => do
  if !g.directed then fail "is_aperiodic not defined for undirected graphs"
  return <- Graph.isAperiodic (g.order + 1) g,
 .of "flow_hierarchy" "G weight?" fun g a => do
  if !g.directed then fail "G must be a digraph in flow_heirarchy"
  let inner <- g.strongParts.mapM fun c => do (<- (g.subgraph c).sizeView (a 1)).num
  return .float (1.0 - (<- (Num.sum inner).div (<- (<- g.sizeView (a 1)).num).toFloat).toFloat),
 .of "is_isolate" "G n" fun g a => return (<- g.degreeView .both (a 1) .null (<- a.items? 1)) == 0,
 .of "isolates" "G" fun g _ => return g.succ.keys.filter (g.degree · = 0),
 .of "edge_boundary" "G nbunch1 nbunch2?" fun g a => do
  let first := (<- a.items 1).filter g.contains
  let pairs first isOther := Traverse.pairs (first.flatMap fun u => ((g.nbrs u).filter isOther).map (u, ·))
  if a.isNull 2 then return pairs (uniq first) (!first.contains ·)
  return pairs first (<- (<- a.items 2).mapM (·.key)).contains,
 .of "node_boundary" "G nbunch1 nbunch2?" fun g a => do
  let first := uniq ((<- a.items 1).filter g.contains)
  let edge := (uniq (first.flatMap g.nbrs)).filter (!first.contains ·)
  if a.isNull 2 then return edge
  return edge.filter (<- (<- a.items 2).mapM (·.key)).contains]

end Acyclic

end DexLens.Network
