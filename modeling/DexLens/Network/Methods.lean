import DexLens.Network.Convert

/-! # What graphs can be asked and told -/

namespace DexLens.Network

open Edit Graph

structure Method where
 name : String
 params : Graph -> Option String
 run : Value -> Graph -> Args -> Work Value

namespace Method

variable (g : Graph) (a : Args) (v : Value) (name : String) (params : String) (side : Side)

def all : Graph -> Option String := fun _ => params

def directed : Graph -> Option String := fun g => if g.directed then params else none

def byKeys (simple multi : String) : Graph -> Option String := fun g => some (if g.multi then multi else simple)

/-- Methods that differ in nothing but their names. -/
def alike (names : String) (params : Graph -> Option String) (run : Value -> Graph -> Args -> Work Value) : List Method :=
 (Text.words names).map fun name => ⟨name, params, run⟩

def changing : List String :=
 ["add_node", "add_nodes_from", "remove_node", "remove_nodes_from", "add_edge", "add_edges_from",
  "remove_edge", "remove_edges_from", "clear"]

def frozenFault : Fault := .graph .fail "Frozen graph can't be modified"

def change (changes : Edit Unit) : Work Value := do
 .edit v changes
 return .null

def changeThrough (g : Graph) (more : Items) (changes : Edit Unit) : Work Value := do
 if g.frozen then throw (if more.isEmpty then frozenFault else .badKind)
 change v changes

def nodesView (data : Bool) : Value :=
 .list (if data then g.nodes.map fun (n, r) => .tuple [n, r.items] else g.verts)

def edgesView (entering data keys : Bool) : Work Value := do
 let items <- a.items? 0
 let ns <- if entering && a.isNull 0 then pure g.pred.keys else g.bunch (a 0) items
 let es := if entering then g.inEdgesOf ns else g.edgesOf ns
 return es.map (·.value (keys && g.multi) data)

def degreeView : Work Value := do g.degreeView side (a 0) (a 1) (<- a.items? 0)

def degreePairs : Work Value :=
 return .list ((<- g.degreeTable side (a 0) (a 1) (<- g.bunch (a 0) (<- a.items? 0))).map .couple)

def named (i : Nat) : Items :=
 if let .dict xs := a i then xs else []

def adding (isStrict : Bool) (add : Vals -> Items -> Edit Unit) : Method :=
 ⟨name, all "nodes **attr", fun v g a => do
  let ns <- a.items 0
  if isStrict && ns.isEmpty then throw .beyond
  changeThrough v g (named a 1) (add ns (named a 1))⟩

def changes : List Method := [
 ⟨"add_node", all "n attr_dict? **attr", fun v _ a => change v (addNode (a 0) (a 1) (named a 2))⟩,
 ⟨"add_nodes_from", all "nodes **attr", fun v _ a => do change v (addNodesFrom (<- a.items 0) (named a 1))⟩,
 ⟨"remove_node", all "n", fun v _ a => change v (removeNode (a 0))⟩,
 ⟨"remove_nodes_from", fun g => some (if g.directed then "nbunch" else "nodes"), fun v _ a => do
  change v (removeNodesFrom (<- a.items 0))⟩,
 ⟨"add_edge", byKeys "u v attr_dict? **attr" "u v key? attr_dict? **attr", fun v g a =>
  if g.multi then change v (addEdge (a 0) (a 1) (a 3) (named a 4) (a 2))
  else change v (addEdge (a 0) (a 1) (a 2) (named a 3))⟩,
 ⟨"add_edges_from", all "ebunch attr_dict? **attr", fun v _ a => do
  let lab <- get
  change v do
   discard (edgeAttributes (a 1) [])
   addEdgesFrom (<- liftM (opt .badKind (lab.items? (a 0)))) (a 1) (named a 2)⟩,
 ⟨"add_weighted_edges_from", all "ebunch weight= **attr", fun v g a => do
  changeThrough v g (named a 2) (addWeightedEdgesFrom (<- a.items 0) (a 1) (named a 2))⟩,
 ⟨"remove_edge", byKeys "u v" "u v key?", fun v _ a => change v (removeEdge (a 0) (a 1) (a 2))⟩,
 ⟨"remove_edges_from", all "ebunch", fun v _ a => do change v (removeEdgesFrom (<- a.items 0))⟩,
 ⟨"clear", all "", fun v g _ => do
  update v g.clear
  return .null⟩,
 adding "add_star" true (addStar · ·), adding "add_path" false (addPath · ·), adding "add_cycle" true (addCycle · ·)]

def nodeQuestions : List Method :=
 alike "__len__ number_of_nodes order" (all "") (fun _ g _ => return .nat g.order) ++
 alike "__contains__ has_node" (all "n") (fun _ g a => return .bool (g.contains (a 0))) ++
 alike "nodes nodes_iter" (all "data=False") (fun _ g a => return nodesView g (a.truth 0)) ++
 alike "neighbors neighbors_iter" (all "n") (fun _ g a => return .list (<- g.neighbors (a 0))) ++
 alike "successors successors_iter" (directed "n") (fun _ g a => return .list (<- g.neighbors (a 0))) ++
 alike "predecessors predecessors_iter" (directed "n") (fun _ g a => return .list (<- g.preds (a 0))) ++ [
 ⟨"__str__", all "", fun _ g _ => return g.name⟩,
 ⟨"__iter__", all "", fun _ g _ => return .list g.verts⟩,
 ⟨"__getitem__", all "n", fun _ g a => return rowValue (<- g.row (a 0))⟩,
 ⟨"nodes_with_selfloops", all "", fun _ g _ => return .list g.loopNodes⟩,
 ⟨"nbunch_iter", all "nbunch?", fun _ g a => return .list (<- g.bunch (a 0) (<- a.items? 0))⟩,
 ⟨"adjacency_list", all "", fun _ g _ => return .list (g.succ.values.map (.list ·.keys))⟩,
 ⟨"adjacency_iter", all "", fun _ g _ => return .list (g.succ.map fun (n, row) => .tuple [n, rowValue row])⟩]

def edgeQuestions : List Method :=
 let dataFirst := byKeys "nbunch? data=False" "nbunch? data=False keys=False"
 let keysFirst := byKeys "nbunch? data=False" "nbunch? keys=False data=False"
 let onlyDirected params (g : Graph) := if g.directed then params g else none
 let listing entering _ g a := edgesView g a entering (a.truth 1) (a.truth 2)
 let keyed entering _ (g : Graph) a :=
  if g.multi then edgesView g a entering (a.truth 2) (a.truth 1) else edgesView g a entering (a.truth 1) false
 alike "edges edges_iter" dataFirst (listing false) ++ [
 ⟨"has_edge", byKeys "u v" "u v key?", fun _ g a => return <- g.hasEdgeKey (a 0) (a 1) (a 2)⟩,
 ⟨"has_successor", directed "u v", fun _ g a => return <- g.hasEdgeKey (a 0) (a 1) .null⟩,
 ⟨"has_predecessor", directed "u v", fun _ g a => return <- g.flip.hasEdgeKey (a 0) (a 1) .null⟩,
 ⟨"out_edges", onlyDirected keysFirst, keyed false⟩,
 ⟨"out_edges_iter", onlyDirected dataFirst, listing false⟩,
 ⟨"in_edges", onlyDirected keysFirst, keyed true⟩,
 ⟨"in_edges_iter", onlyDirected dataFirst, listing true⟩,
 ⟨"get_edge_data", byKeys "u v default?" "u v key? default?", fun _ g a =>
  if g.multi then g.edgeData (a 0) (a 1) (a 2) (a 3)
  else g.edgeData (a 0) (a 1) .null (a 2)⟩,
 ⟨"selfloop_edges", byKeys "data=False" "data=False keys=False", fun _ g a =>
  return g.loops.map (·.value (a.truth 1 && g.multi) (a.truth 0))⟩,
 ⟨"number_of_selfloops", all "", fun _ g _ => return g.loops.length⟩,
 ⟨"number_of_edges", all "u? v?", fun _ g a => if a.isNull 0 then g.sizeView .null else g.countBetween (a 0) (a 1)⟩,
 ⟨"size", all "weight?", fun _ g a => g.sizeView (a 0)⟩]

def degreeQuestions : List Method :=
 [("degree", all, Side.both), ("in_degree", directed, .entering), ("out_degree", directed, .leaving)].flatMap
  fun (name, which, side) =>
   [⟨name, which "nbunch? weight?", fun _ g a => degreeView g a side⟩,
    ⟨name ++ "_iter", which "nbunch? weight?", fun _ g a => degreePairs g a side⟩]

def wholeQuestions : List Method := [
 ⟨"copy", all "", fun _ g _ => keep g.copy⟩,
 ⟨"is_multigraph", all "", fun _ g _ => return .bool g.multi⟩,
 ⟨"is_directed", all "", fun _ g _ => return .bool g.directed⟩,
 ⟨"to_directed", all "", fun _ g _ => keep g.toDirected⟩,
 ⟨"to_undirected", fun g => some (if g.directed then "reciprocal=False" else ""), fun _ g a =>
  keep (g.toUndirected (match a 0 with | .bool b => b | _ => false))⟩,
 ⟨"reverse", directed "copy=True", fun v g a => do
  if a.truth 0 then keep g.reverse
  else
   update v g.flip
   return v⟩,
 ⟨"subgraph", all "nbunch", fun _ g a => do keep (g.subgraph (<- g.bunch (a 0) (<- a.items? 0)))⟩]

def methods : List Method := changes ++ nodeQuestions ++ edgeQuestions ++ degreeQuestions ++ wholeQuestions

def call (given : Vals) (byName : Parts) : Work Value := do
 let g <- .graph v
 if g.frozen && changing.contains name then throw (if byName.isEmpty then frozenFault else .badKind)
 let some m := methods.find? (·.name == name) | throw .noPart
 let some params := m.params g | throw .noPart
 m.run v g ⟨<- bind (Param.parseAll params) given byName⟩

end Method

end DexLens.Network
