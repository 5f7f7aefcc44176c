import DexLens.Network.Format.Gml

/-! # Graphs as tables of tables, and as JSON text -/

namespace DexLens.Network.JsonGraph

open Edit Table

variable (g : Graph) (d : Items) (data directed multi : Value)

def described (own : Parts) (items : Items) : Res Value := do
 items.forM fun (k, _) => do
  let .text s := k | .error .badKind
  if own.any (·.1 == s) then .error .badKind else .ok ()
 return .dict (own.map (fun (k, v) => (.text k, v)) ++ items)

def preamble (more : Items) : Value :=
 let front : Items := [("directed", g.directed), ("multigraph", g.multi),
  ("graph", .list (g.attrs.items.map .couple))]
 front ++ more

def nodeTables : Res Vals := g.nodes.mapM fun (n, r) => described [("id", n)] r.items

def nodeLink : Res Value := do
 let ns <- nodeTables g
 let at_ n : Value := g.verts.idxOf n
 let links <- g.edges.mapM fun e =>
  described ([("source", at_ e.src), ("target", at_ e.dst)] ++ (e.key.map ("key", ·)).toList) e.items
 return preamble g [("nodes", ns), ("links", links)]

def adjacency (g : Graph) : Res Value := do
 let rows <- g.nodes.mapM fun (n, r) => do
  let node <- described [("id", n)] r.items
  let row <- (Graph.rowEdges n (g.adj n)).mapM fun e =>
   described ([("id", e.dst)] ++ (e.key.map ("key", ·)).toList) e.items
  return (node, .list row)
 return preamble g [("nodes", rows.map (·.1)), ("adjacency", .list (rows.map (·.2)))]

def kids (g : Graph) : Nat -> Value -> Res Vals
 | 0, _ => .error .tooDeep
 | n + 1, v =>
  (g.nbrs v).mapM fun c => do
   let d <- described [("id", c)] (g.nodeItems c)
   let cs <- kids g n c
   if cs.isEmpty then return d
   match d with
   | .dict d => return .dict (put d "children" (.list cs))
   | d => return d

def tree (root : Value) : Res Value := do
 if g.order != g.size + 1 || !g.directed then .error .badKind
 match <- described [("id", root)] (<- g.nodes.get (<- root.key)).items with
 | .dict d => return put d "children" (<- kids g (g.order + 1) root)
 | d => return d

def part (name : Value) : Work Vals := do .items (<- get d name)

def begin_ (directed multi : Value) : Res Graph := do
 let get name dflt := d.getD name dflt
 let g := .new (get "directed" directed).truth (get "multigraph" multi).truth
 let attrs := ofList (<- (get "graph" (.list [])).entries)
 return attrs.foldl (fun g (k, v) => g.setAttr k v) g

def others (without : List String) : Items :=
 ofList ((d.filter (!Gml.isAmong ·.1 without)).map fun (k, v) => (k.shown, v))

def passed (items : Items) (taken : List String) : Res (Value × Items) :=
 if taken.any (items.has ·) then .error .badKind
 else .ok (items.getD "attr_dict" .null, items.erase "attr_dict")

def ofNodeLink : Work Graph := do
 let d <- data.asDict
 let mut g <- begin_ d directed multi
 let mut ids := []
 for n in <- part d "nodes" do
  let n <- n.asDict
  let id := n.getD "id" (.nat ids.length)
  let (attrs, more) <- passed (others n ["id"]) ["self", "n"]
  g <- result g (addNode id attrs more)
  ids := ids ++ [id]
 for l in <- part d "links" do
  let l <- l.asDict
  let u <- get l "source"
  let v <- get l "target"
  let (attrs, more) <- passed (others l ["source", "target"]) ["self", "u", "v"]
  let u <- Sequence.pick ids (<- u.asInt)
  let v <- Sequence.pick ids (<- v.asInt)
  if g.multi then g <- result g (addEdge u v attrs (more.erase "key") (more.getD "key" .null))
  else g <- result g (addEdge u v attrs more)
 return g

def ofAdjacency : Work Graph := do
 let d <- data.asDict
 let mut g <- begin_ d directed multi
 let mut ids := []
 for n in <- part d "nodes" do
  let n <- n.asDict
  let id <- get n "id"
  g <- result g (addNode id (.dict (n.erase "id")))
  ids := ids ++ [id]
 for (row, i) in (<- part d "adjacency").zipIdx do
  let u <- opt .beyond ids[i]?
  for t in <- .items row do
   let t <- t.asDict
   let v <- get t "id"
   let key := if g.multi then t.getD "key" .null else .null
   g <- result g (addEdge u v t [] key)
 return g

mutual

def addChildren (parent : Value) : Vals -> Edit Unit
 | [] => return
 | c :: cs => do
  addChild parent c
  addChildren parent cs

def addChild (parent : Value) : Value -> Edit Unit
 | .dict d => do
  let id <- get d "id"
  addEdge parent id
  descend id d
  addNode id (.dict (others d ["id", "children"]))
 | _ => throw .badKind

def descend (id : Value) : Pairs -> Edit Unit
 | [] => return
 | (.text "children", .list cs) :: _ | (.text "children", .tuple cs) :: _ => addChildren id cs
 | (.text "children", v) :: _ => do
  if v.truth then
   discard v.items
   throw .badKind
 | _ :: rest => descend id rest

end

def ofTree (data : Value) : Res Graph := do
 let .dict d := data | .error .badKind
 let id <- get d "id"
 result (.new true false) do
  addNode id (.dict (d.filter (!Gml.isAmong ·.1 ["id", "children"])))
  match getD d "children" (.list []) with
  | .list cs => addChildren id cs
  | v => addChildren id (<- v.items)

def style : Json.Style where
 number x := if x.isNaN then "NaN" else if x.isInf then if x > 0 then "Infinity" else "-Infinity" else (Value.float x).shown
 failure _ := "null"
 comma := ", "
 colon := ": "

def memberName : Value -> Res String
 | .text s => .ok s
 | .bool b => .ok (if b then "true" else "false")
 | .null => .ok "null"
 | .int i => .ok (toString i)
 | .float x => .ok (style.number x)
 | _ => .error .badKind

def encode : Nat -> Value -> Work Json
 | 0, _ => throw .tooDeep
 | n + 1, v => do
  match v with
  | .null => return .null
  | .bool b => return .bool b
  | .int i => return .int i
  | .float x => return .float x
  | .text s => return .str s
  | .list xs | .tuple xs => return .arr (<- xs.mapM (encode n))
  | .dict xs => return .obj (<- xs.mapM fun (k, v) => return (<- memberName k, <- encode n v))
  | v => encode n (<- nodeLink (<- .graph v))

mutual

def decode : Json -> Value
 | .null => .null
 | .bool b => .bool b
 | .int i => .int i
 | .float x => .float x
 | .str s => .text s
 | .arr xs => .list (decodeItems xs)
 | .obj ms => .dict (ofList (decodeMembers ms))
 | .written s => .text s
 | .failed _ => .null

def decodeItems : List Json -> Vals
 | [] => []
 | x :: xs => decode x :: decodeItems xs

def decodeMembers : List (String × Json) -> Pairs
 | [] => []
 | (k, v) :: ms => (.text k, decode v) :: decodeMembers ms

end

def load (v : Value) : Work Graph := do
 let s <- match v with
  | .text s => pure s
  | .bytes b => pure (<- Files.decode .unicode b)
  | _ => throw .badKind
 ofNodeLink (decode (<- opt .badJson (Json.parse? s))) false true

def depth : Nat := 990

def cmds : List Cmd := Cmd.family "readwrite.json_graph." [
 ⟨"node_link_data", "G", nodeLink⟩,
 ⟨"node_link_graph", "data directed=False multigraph=True", ofNodeLink⟩,
 ⟨"adjacency_data", "G", adjacency⟩,
 ⟨"adjacency_graph", "data directed=False multigraph=True", ofAdjacency⟩,
 ⟨"tree_data", "G root", tree⟩,
 ⟨"tree_graph", "data", ofTree⟩,
 ⟨"dumps", "obj", fun a => return Json.render style (<- encode depth (a 0))⟩,
 ⟨"loads", "s", load⟩,
 ⟨"load", "fp", fun a => do keep (<- load (<- Files.whole (a 0)))⟩]

end DexLens.Network.JsonGraph
