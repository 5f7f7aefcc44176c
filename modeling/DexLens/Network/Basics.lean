import DexLens.Network.Acyclic

/-! # Plain facts about graphs, their attributes and their names -/

namespace DexLens.Network

open Edit Float Graph Table Total Value

namespace Graph

variable (g : Graph)

def field (x : Float) : String := Text.padLeft 8 ' ' (Decimal.fixed 4 x)

def summary : String :=
 let n := g.order
 let share (k : Nat) := field (ofInt k / ofInt n)
 let sum f := ofNats (g.verts.map f)
 s!"Name: {g.name.shown}\nType: {g.className}\nNumber of nodes: {n}" ++ s!"\nNumber of edges: {g.size}\n" ++
  if n = 0 then ""
   else if g.directed then
    s!"Average in degree: {share (sum g.inDegree)}\nAverage out degree: {share (sum g.outDegree)}"
   else "Average degree: " ++ share (sum g.degree)

def nodeSummary (n : Value) : Res String := do
 if !g.contains n then fail s!"node {n.shown} not in graph"
 let text <- n.filling
 return s!"Node {text} has the following properties:\nDegree: {g.degree n}" ++
  "\nNeighbors: " ++ " ".intercalate ((g.nbrs n).map shown)

def density : Float :=
 let n := g.order
 let m := ofInt g.size
 if g.size = 0 || n ≤ 1 then 0.0
 else if g.directed then m / ofInt (n * (n - 1) : Nat)
 else m * 2.0 / ofInt (n * (n - 1) : Nat)

def degreeHistogram : Res (List Nat) :=
 let ds := g.verts.map g.degree
 opt .badVal (ds.max?.map fun top => (List.range (top + 1)).map ds.count)

def relabelled (rename : Value -> Res Value) : Res Graph := do
 let h := g.emptyLike.setName s!"({g.name.shown})"
 let h <- g.edges.foldlM (fun h e => do
  let u <- rename e.src
  let v <- rename e.dst
  result h (addListedEdge ({ e with src := u, dst := v }.value g.multi true) [])) h
 let h <- result h (addNodesFrom (<- g.verts.mapM rename))
 let h <- g.nodes.foldlM (fun h (n, r) => do
  let m <- (<- rename n).key
  return { h with
   next := h.next + 1
   nodes := h.nodes.put m ⟨h.next, r.items⟩ }) h
 return { h with attrs := { h.attrs with items := h.attrs.items.merge g.attrs.items } }

def renameNode (old new : Value) : Edit Unit := do
 let g <- get
 .addNode new (.dict (<- opt .noKey ((g.nodes.get? (<- old.key)).map (·.items))))
 let g <- get
 let swap n := if old == n && new.truth then new else n
 let out := (g.edgesOf [old]).map fun e => { e with src := new, dst := swap e.dst }
 let into := if g.directed then (g.inEdgesOf [old]).map fun e => { e with src := swap e.src, dst := new } else []
 .removeNode old
 addEdgesFrom ((out ++ into).map (·.value g.multi true))

def renameOrder (names : Items) : Res Vals := do
 let olds := uniq names.keys
 let news <- names.values.mapM (·.key)
 if olds.any news.contains then
  let d := (new true false).addEdges names
  let d := d.loopNodes.foldl (fun d n => d.unlink n n) d
  match d.topologicalOrder d.verts with
  | .ok ns => return ns.reverse
  | .error (.graph .unfeasible _) =>
   .error (.graph .unfeasible ("The node label sets are overlapping and no ordering can resolve the " ++
    "mapping. Use copy=True."))
  | .error f => .error f
 else return olds

end Graph

namespace Basics

variable (g : Graph)

def newNames (mapping : Value) : Work Items := do
 match mapping with
 | .dict t => return t
 | .function _ =>
  let f <- .function mapping
  return ofList (<- g.verts.mapM fun n => return (n, <- f n))
 | .list _ | .tuple _ | .text _ | .bytes _ | .graph _ | .array _ => throw .noPart
 | _ => throw .badKind

def relabel (a : Args) : Work Value := do
 let g <- a.graph
 let names <- newNames g (a 1)
 if a.truth 2 then keep (<- g.relabelled fun n => .ok (names.getD n n))
 else
  let order <- renameOrder names
  if g.frozen && !order.isEmpty then throw .badKind
  order.forM fun old => do
   let some new := names.get? old | pure ()
   .edit (a 0) (renameNode old new)
  return a 0

def ordered (word : Value) : Res Vals := do
 let byDegree := do (<- sorted (g.succ.keys.map fun n => .tuple [g.degree n, n])).mapM fun p => return (<- p.two).2
 if word == "default" then return g.verts
 if word == "sorted" then sorted g.verts
 else if word == "increasing degree" then byDegree
 else if word == "decreasing degree" then return (<- byDegree).reverse
 else fail ("Unknown node ordering: " ++ (<- word.filling))

def numbered (a : Args) : Work Value := do
 let g <- a.graph
 let first <- a.int 1
 let ns <- ordered g (a 2)
 let names : Items := ns.zipIdx.map fun (n, i) => (n, .int (first + i))
 let h <- g.relabelled fun n => .ok (names.getD n n)
 let h <- if let .text s := g.name then pure (h.setName s!"({s})_with_int_labels") else throw .badKind
 if a.isNull 3 then keep h
 else keep (names.foldl (fun h (old, new) => h.setNodeAttr new (a 3) old) h)

def setEdge (ends name value : Value) : Res Graph := do
 let (u, v) <- ends.two
 match (<- g.row u).get? (<- v.key) with
 | none => .error .noKey
 | some (.one _) => return g.setEdgeAttr u v (<- name.key) value
 | some (.many rs) => do
  let .dict items := value | .error .badKind
  return { g.putBundle u v (.many (rs.put (<- name.key) ⟨g.next, items⟩)) with next := g.next + 1 }

def attributeCommands : List Cmd := [
 ⟨"set_node_attributes", "G name attributes", fun a => do
  for (n, v) in <- a.dict 2 do
   let g <- a.graph
   if !g.hasNode n then throw .noKey
   update (a 0) (g.setNodeAttr n (<- (a 1).key) v)
  return .null⟩,
 .of "get_node_attributes" "G name" fun g a => do
  let k <- (a 1).key
  return g.nodes.filterMap fun (n, r) => (r.items.get? k).map (n, ·),
 ⟨"set_edge_attributes", "G name attributes", fun a => do
  for (ends, v) in <- a.dict 2 do
   let g <- a.graph
   update (a 0) (<- setEdge g ends (a 1) v)
  return .null⟩,
 .of "get_edge_attributes" "G name" fun g a => do
  let k <- (a 1).key
  return ofList (g.edges.filterMap fun e => (e.items.get? k).map (e.ends, ·))]

def asking (method params : String) : Cmd := ⟨method, params, fun a => Method.call (a 0) method (a.values.drop 1) []⟩

def plainCommands : List Cmd := [
 asking "nodes" "G",
 asking "nodes_iter" "G",
 asking "edges" "G nbunch?",
 asking "edges_iter" "G nbunch?",
 asking "degree" "G nbunch? weight?",
 asking "neighbors" "G n",
 asking "number_of_nodes" "G",
 asking "number_of_edges" "G",
 asking "is_directed" "G",
 asking "subgraph" "G nbunch",
 ⟨"density", "G", density⟩,
 .of "degree_histogram" "G" fun g _ => return (<- g.degreeHistogram).map nat,
 .of "freeze" "G" fun g a => do
  update (a 0) { g with frozen := true }
  return a 0,
 ⟨"is_frozen", "G", fun a => return ((<- get).graph? (a 0)).elim false (·.frozen)⟩,
 .of "create_empty_copy" "G with_nodes=True" fun g a => do
  keep (if a.truth 1 then g.emptyLike.addNodes g.verts else g.emptyLike),
 .of "info" "G n?" fun g a => return <- if a.isNull 1 then pure g.summary else g.nodeSummary (a 1),
 .of "all_neighbors" "graph node" fun g a => do
  if g.directed then return (<- g.preds (a 1)) ++ (<- g.neighbors (a 1))
  return <- g.neighbors (a 1),
 .of "non_neighbors" "graph node" fun g a => do
  let ns <- g.neighbors (a 1)
  return g.verts.filter fun n => !ns.contains n && !n == a 1,
 ⟨"relabel_nodes", "G mapping copy=True", relabel⟩,
 ⟨"convert_node_labels_to_integers", "G first_label=0 ordering=default label_attribute?", numbered⟩]

def cmds : List Cmd := attributeCommands ++ plainCommands

end Basics

/-! # Triangles, squares, clustering and the surroundings of a node -/

def Args.nodes (a : Args) (g : Graph) (i : Nat) : Work (Vals × Bool) :=
 return (<- g.bunch (a i) (<- a.items? i), g.contains (a i))

def single (one : Bool) (t : Items) : Res Value :=
 if one then
  if let (_, v) :: _ := t then .ok v else .error .beyond
 else .ok (ofList t)

namespace Graph

variable (g : Graph) (weight : Value) (v : Value) (top : Float)

def others : Vals := (g.nbrs v).filter (· != v)

def triangleCount : Nat × Nat :=
 let vs := g.others v
 (vs.length, ofNats (vs.map fun w => ((g.others w).filter vs.contains).length))

def noMultigraph : Res Unit := if g.multi then fail "Not defined for multigraphs." else .ok ()

def cubeRoot (x : Float) : Float × Float :=
 if x < 0 then
  let r := pow (-x) (1.0 / 3.0)
  let angle := 3.141592653589793 * (1.0 / 3.0)
  (r * cos angle, r * sin angle)
 else (pow x (1.0 / 3.0), 0.0)

def greatestWeight : Res Float := do
 if weight.isNull || g.edges.isEmpty then return 1.0
 (<- greatest (g.edges.map (·.get weight (.float 1.0)))).asFloat

def triangleWeight (i : Value) : Res (Nat × Float × Float) := do
 let near := g.others i
 let share u v : Res Float := do
  let w <- ((g.data u v).getD weight (.float 1.0)).num
  return (<- w.div (.float top)).toFloat
 let mut sum : Float × Float := (0.0, 0.0)
 let mut seen := []
 for j in near do
  let wij <- share i j
  seen := j :: seen
  for k in near do
   if (g.nbrs j).contains k && !seen.contains k then
    let (re, im) := cubeRoot (wij * (<- share j k) * (<- share i k))
    sum := (sum.1 + re, sum.2 + im)
 return (near.length, sum.1 * 2, sum.2 * 2)

def clusteringAt (v : Value) : Res Value := do
 g.noMultigraph
 let pairs d := ofInt (d * (d - 1) : Nat)
 if weight.isNull then
  let (d, t) := g.triangleCount v
  return .float (if t = 0 then 0.0 else ofInt t / pairs d)
 let (d, re, im) <- g.triangleWeight weight top v
 if re == 0 && im == 0 then return .float 0.0
 if im == 0 then return re / pairs d
 return .complex (re / pairs d) (im / pairs d)

def clusteringOf (ns : Vals) : Res Items := do
 if g.directed then fail "('Clustering algorithms are not defined ', 'for directed graphs.')"
 g.noMultigraph
 let top <- if weight.isNull then pure 1.0 else g.greatestWeight weight
 ns.mapM fun v => return (v, <- g.clusteringAt weight top v)

def pairsOf : Vals -> Pairs
 | [] => []
 | x :: xs => xs.map (x, ·) ++ pairsOf xs

def squareClustering : Float :=
 let (found, possible) := (pairsOf (g.nbrs v)).foldl (fun acc (u, w) =>
  let nu := g.nbrs u
  let nw := g.nbrs w
  let squares := ((nu.filter nw.contains).filter (· != v)).length
  let s := ofInt squares
  let degm := s + 1.0 + if nu.contains w then 1.0 else 0.0
  (acc.1 + s, acc.2 + ((ofInt nu.length - degm) * (ofInt nw.length - degm) + s))) (0.0, 0.0)
 if possible > 0 then found / possible else found

end Graph

namespace Clustering

def clustering (a : Args) (i w : Nat) : Work (Items × Bool) := do
 let g <- a.graph
 if g.directed then discard (g.clusteringOf .null [])
 let (ns, one) <- a.nodes g i
 return (<- g.clusteringOf (a w) ns, one)

def cmds : List Cmd := [
 .of "triangles" "G nodes?" fun g a => do
  if g.directed then fail "triangles() is not defined for directed graphs."
  g.noMultigraph
  let (ns, one) <- a.nodes g 1
  single one (ns.map fun v => (v, .nat ((g.triangleCount v).2 / 2))),
 ⟨"average_clustering", "G nodes? weight? count_zeros=True", fun a => do
  let (t, one) <- clustering a 1 2
  if one then throw .noPart
  let vs := (ofList t).values
  let vs <- if a.truth 3 then pure vs else vs.filterM fun v => return Num.lt 0 (<- v.num)
  return <- (<- sumOf vs).div (ofInt vs.length)⟩,
 ⟨"clustering", "G nodes? weight?", fun a => do
  let (t, one) <- clustering a 1 2
  single one t⟩,
 .of "transitivity" "G" fun g _ => do
  g.noMultigraph
  let ts := g.succ.keys.map g.triangleCount
  let found := ofNats (ts.map (·.2))
  let possible := ofNats (ts.map fun (d, _) => d * (d - 1))
  if found = 0 then return .float 0.0
  return ofInt found / ofInt possible,
 .of "square_clustering" "G nodes?" fun g a => do
  let (ns, one) <- a.nodes g 1
  single one (ns.map fun v => (v, g.squareClustering v))]

end Clustering

/-! ## The surroundings of a node -/

def Graph.ego (g : Graph) (n radius : Value) (center undirected : Bool) (weight : Value) : Res Graph := do
 let h := if undirected then g.toUndirected else g
 let near <- if weight.isNull then (·.keys) <$> h.distances n radius
  else (·.1.keys) <$> h.dijkstra n .null radius weight
 let ego := (g.subgraph near).copy
 return if center then ego else ego.removeNode n

def Ego.cmds : List Cmd := [
 ⟨"ego_graph", "G n radius=1 center=True undirected=False distance?", ego⟩]

end DexLens.Network
