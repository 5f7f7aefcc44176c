import DexLens.Network.Paths.Unweighted

/-! # Components -/

namespace DexLens.Network

namespace Graph

variable (g : Graph) (src : Value) (s : Strong)

def parts [Monad m] (component : Value -> m Vals) : m (List Vals) := do
 let mut seen := []
 let mut out := #[]
 for v in g.verts do
  if !seen.contains v then
   let c <- component v
   out := out.push c
   seen := c ++ seen
 return out.toList

def components : Res (List Vals) := g.parts fun v => return (<- g.distances v .null).keys

def weakComponent : Vals := Id.run do
 let mut seen := []
 let mut next := [src]
 for _ in [0:g.order + 2] do
  if next.isEmpty then break
  let current := next
  next := []
  for v in current do
   if !seen.contains v then
    seen := seen ++ [v]
    next := (g.nbrs v ++ g.conbrs v).foldl including next
 return seen

def weakComponents : List Vals := Id.run (g.parts fun v => return g.weakComponent v)

def isConnected : Res Bool := do
 let n :: _ := g.verts | .error (.graph .pointless "('Connectivity is undefined ', 'for the null graph.')")
 return (<- g.distances n .null).length == g.order

def isWeaklyConnected : Res Bool := if let n :: _ := g.verts then return (g.weakComponent n).length == g.order
 else .error (.graph .pointless "Connectivity is undefined for the null graph.")

structure Strong where
 count : Nat := 0
 preorder : Table Nat := []
 lowlink : Table Nat := []
 found : Vals := []
 waiting : Vals := []
 out : Array Vals := #[]

def Strong.number (v : Value) : Nat := s.preorder.getD v 0

def Strong.finish (g : Graph) (v : Value) : Strong :=
 let low := (g.nbrs v).foldl (fun low w =>
  if s.found.contains w then low
  else if s.number w > s.number v then min low (s.lowlink.getD w 0)
  else min low (s.number w)) (s.number v)
 let s := { s with lowlink := s.lowlink.put v low }
 if low == s.number v then
  let taken := s.waiting.takeWhile (s.number · > s.number v)
  { s with
   found := v :: taken ++ s.found
   waiting := s.waiting.drop taken.length
   out := s.out.push (v :: taken) }
 else { s with waiting := v :: s.waiting }

def strongParts : List Vals := Id.run do
 let mut s : Strong := {}
 for src in g.verts do
  if s.found.contains src then continue
  let mut stack := [src]
  for _ in [0:g.bound] do
   let v :: rest := stack | break
   if !s.preorder.has v then s := { s with count := s.count + 1, preorder := s.preorder ++ [(v, s.count + 1)] }
   if let some w := (g.nbrs v).find? fun w => !s.preorder.has w then stack := w :: stack
   else
    s := s.finish g v
    stack := rest
 return s.out.toList

def isStronglyConnected : Res Bool := do
 let c :: _ := g.strongParts | .error (.graph .pointless "Connectivity is undefined for the null graph.")
 .ok (c.length == g.order)

structure Roots where
 root : Table Nat := []
 visited : Table Nat := []
 component : Table Nat := []
 stack : Vals := []
 out : Array Vals := #[]

def visitStrong (g : Graph) : Nat -> Nat -> Roots -> Value -> Roots
 | 0, _, s, _ => s
 | fuel + 1, count, s, v =>
  let s := { s with root := s.root.put v count, visited := s.visited.put v count, stack := v :: s.stack }
  let s := (g.nbrs v).foldl (fun s w =>
   let s := if s.visited.has w then s else g.visitStrong fuel (count + 1) s w
   if s.component.has w then s
   else { s with root := s.root.put v (min (s.root.getD v 0) (s.root.getD w 0)) }) s
  let low := s.root.getD v 0
  if low == count then
   let taken := s.stack.takeWhile (· != v)
   { s with
    component := taken.foldl (.put · · low) (s.component.put v low)
    stack := s.stack.drop (taken.length + 1)
    out := s.out.push (v :: taken) }
  else s

def strongComponentsRecursive : List Vals :=
 (g.verts.foldl (fun (s : Roots) v => if s.visited.has v then s else g.visitStrong (g.order + 1) 0 s v) {}).out.toList

def strongComponentsTwice : Res (List Vals) := do
 let post <- g.flip.postorder src
 let mut seen := []
 let mut out := #[]
 for r in post.reverse do
  if seen.contains r then continue
  let new := (<- g.preorder r).filter (!seen.contains ·)
  seen := new ++ seen
  out := out.push new
 return out.toList

def condensation (parts : List Vals) : Res Graph := do
 if parts.isEmpty then .error .unbound
 let mapping := Table.ofList (parts.zipIdx.flatMap fun (c, i) => c.map (·, i))
 let c := (new true false).addNodes ((List.range parts.length).map .nat)
 g.edges.foldlM (fun c e => do
  let i <- mapping.get e.src
  let j <- mapping.get e.dst
  return if i = j then c else c.addEdge (.nat i) (.nat j)) c

def attractingComponents : Res (List Vals) := do
 let parts := g.strongParts
 let c <- g.condensation parts
 return (parts.zipIdx.filter fun (_, i) => c.outDegree i = 0).map (·.1)

structure Twofold where
 visited : Vals := []
 discovery : Table Nat := []
 low : Table Nat := []
 edges : Pairs := []
 rootChildren : Nat := 0
 parts : Array Pairs := #[]
 joints : Array Value := #[]

namespace Twofold

variable (s : Twofold) (v : Value)

def seenAt : Nat := s.discovery.getD v 0

def lowOf : Nat := s.low.getD v 0

def lower (k : Nat) : Twofold := { s with low := s.low.put v (min (s.lowOf v) k) }

def from_ (u v : Value) : Nat := s.edges.findIdx fun (a, b) => a == u && b == v

def finish (grand parent : Value) (depth : Nat) : Twofold :=
 let i := s.from_ grand parent
 if depth > 1 then
  let s :=
   if s.lowOf parent ≥ s.seenAt grand then
    { s with
     parts := s.parts.push (s.edges.drop i)
     edges := s.edges.take i
     joints := s.joints.push grand }
   else s
  s.lower grand (s.lowOf parent)
 else if depth = 1 then { s with rootChildren := s.rootChildren + 1, parts := s.parts.push (s.edges.drop i) }
 else s

end Twofold

def twofold : Twofold := Id.run do
 let mut s : Twofold := {}
 for start in g.verts do
  if s.visited.contains start then continue
  s := { s with
   discovery := [(start, 0)], low := [(start, 0)], rootChildren := 0, edges := []
   visited := start :: s.visited }
  let mut stack := [(start, start, g.nbrs start)]
  for _ in [0:g.bound] do
   match stack with
   | [] => break
   | (grand, parent, child :: kids) :: rest =>
    stack := (grand, parent, kids) :: rest
    if grand == child then continue
    if s.visited.contains child then
     if s.seenAt child ≤ s.seenAt parent then
      s := { s.lower parent (s.seenAt child) with edges := s.edges ++ [(parent, child)] }
    else
     let n := s.discovery.length
     s := { s with
      low := s.low.put child n, discovery := s.discovery.put child n
      visited := child :: s.visited
      edges := s.edges ++ [(parent, child)] }
     stack := (parent, child, g.nbrs child) :: stack
   | (grand, parent, []) :: rest =>
    stack := rest
    s := s.finish grand parent rest.length
  if s.rootChildren > 1 then s := { s with joints := s.joints.push start }
 return s

def twofoldComponents : List Vals := g.twofold.parts.toList.map fun es => uniq (es.flatMap fun (u, v) => [u, v])

def isTree : Res Bool :=
 if g.nodes.isEmpty then .error (.graph .pointless "")
 else .ok (g.size + 1 == g.order)

end Graph

namespace Components

def lists (xs : List Vals) : Value := .list (xs.map .list)

def subgraphs (g : Graph) (parts : List Vals) (copied : Bool) : Work Value :=
 .keepAll (parts.map fun c => if copied then (g.subgraph c).copy else g.subgraph c)

section

variable (name params : String) (run : Graph -> Args -> Work Value)

/-- A command on a graph whose edges have no direction. -/
def onUndirected : Cmd := ⟨name, params, fun a => do run (<- a.graphNot "directed") a⟩

def onDirected : Cmd := ⟨name, params, fun a => do run (<- a.graphNot "undirected") a⟩

end

def connected : List Cmd := [
 onUndirected "connected_components" "G" fun g _ => return lists (<- g.components),
 onUndirected "connected_component_subgraphs" "G copy=True" fun g a => do subgraphs g (<- g.components) (a.truth 1),
 onUndirected "number_connected_components" "G" fun g _ => return (<- g.components).length,
 onUndirected "is_connected" "G" fun g _ => return <- g.isConnected,
 onUndirected "node_connected_component" "G n" fun g a => return (<- g.distances (a 1) .null).keys,
 onDirected "weakly_connected_components" "G" fun g _ => return lists g.weakComponents,
 onDirected "number_weakly_connected_components" "G" fun g _ => return g.weakComponents.length,
 onDirected "weakly_connected_component_subgraphs" "G copy=True" fun g a => subgraphs g g.weakComponents (a.truth 1),
 onDirected "is_weakly_connected" "G" fun g _ => return <- g.isWeaklyConnected]

def strong : List Cmd := [
 onDirected "strongly_connected_components" "G" fun g _ => return lists g.strongParts,
 onDirected "kosaraju_strongly_connected_components" "G source?" fun g a => do
  match g.strongComponentsTwice (a 1) with
  | .ok cs => return lists cs
  | .error f =>
   update (a 0) g.flip
   throw f,
 onDirected "strongly_connected_components_recursive" "G" fun g _ => return lists g.strongComponentsRecursive,
 onDirected "strongly_connected_component_subgraphs" "G copy=True" fun g a => do
  subgraphs g g.strongParts (a.truth 1),
 onDirected "number_strongly_connected_components" "G" fun g _ => return g.strongParts.length,
 onDirected "is_strongly_connected" "G" fun g _ => return <- g.isStronglyConnected,
 onDirected "condensation" "G scc?" fun g a => do
  keep (<- g.condensation (<- if a.isNull 1 then pure g.strongParts else (<- a.items 1).mapM .items)),
 onDirected "attracting_components" "G" fun g _ => return lists (<- g.attractingComponents),
 onDirected "number_attracting_components" "G" fun g _ => return (<- g.attractingComponents).length,
 onDirected "is_attracting_component" "G" fun g _ => do
  let c :: _ <- g.attractingComponents | throw .beyond
  return c.length == g.order,
 onDirected "attracting_component_subgraphs" "G copy=True" fun g a => do
  subgraphs g (<- g.attractingComponents) (a.truth 1)]

def twofold : List Cmd := [
 onUndirected "is_biconnected" "G" fun g _ => match g.twofoldComponents with
  | [] => return false
  | c :: _ => return c.length == g.order,
 onUndirected "biconnected_component_edges" "G" fun g _ =>
  return .list (g.twofold.parts.toList.map fun es => .list (es.map .couple)),
 onUndirected "biconnected_components" "G" fun g _ => return .list (g.twofoldComponents.map .set),
 onUndirected "biconnected_component_subgraphs" "G copy=True" fun g a => subgraphs g g.twofoldComponents (a.truth 1),
 onUndirected "articulation_points" "G" fun g _ => return g.twofold.joints.toList,
 onUndirected "is_tree" "G" fun g _ => return <- g.isTree,
 onUndirected "is_forest" "G" fun g _ => return (<- g.components).all fun c => (g.subgraph c).size + 1 == c.length]

def cmds : List Cmd := connected ++ strong ++ twofold

end Components

end DexLens.Network
