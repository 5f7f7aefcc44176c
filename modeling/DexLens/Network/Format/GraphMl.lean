import DexLens.Markup.Reader
import DexLens.Network.Format.JsonGraph

/-! # Graphs as markup with typed data

Every kind of data is declared once and then referred to by a short key.
-/

namespace DexLens.Network

open Files Markup String Work

def Value.kindName : Value -> String
 | .null => "NoneType"
 | .bool _ => "bool"
 | .int _ => "int"
 | .float _ => "float"
 | .complex _ _ => "complex"
 | .text _ => "str"
 | .bytes _ => "bytes"
 | .tuple _ => "tuple"
 | .list _ => "list"
 | .set _ => "set"
 | .dict _ => "dict"
 | .array _ => "numpy.ndarray"
 | _ => "object"

namespace Files

def document (enc : Value) (text : String) : Res Bytes := do
 let e <- encoding enc
 let name := if let .text s := enc then s else ""
 let declared := ["utf-8", "us-ascii"].contains name.toLower
 let front := if declared then "" else s!"<?xml version='1.0' encoding='{name}'?>\n"
 let body := match e with
  | .unicode => text
  | .ascii => numbered 128 text
  | .latin => numbered 256 text
 encode e s!"<?xml version=\"1.0\" encoding=\"{name}\"?>{front}{body}"

def plainDocument (enc : Value) (text : String) : Res String := do
 discard (encoding enc)
 return numbered 128 text

def textLines (s : String) : List String := go [] s.toList
where
 go (acc : List Char) : List Char -> List String
  | [] => if acc.isEmpty then [] else [ofList acc.reverse]
  | '\r' :: '\n' :: cs => ofList acc.reverse :: go [] cs
  | c :: cs =>
   if ('\n' ≤ c && c ≤ '\r') || (0x1c ≤ c.toNat && c.toNat ≤ 0x1e) then ofList acc.reverse :: go [] cs
   else go (c :: acc) cs

def markup (path : Value) : Work Element := do
 match path with
 | .null | .list _ | .tuple _ | .dict _ | .float _ => throw .badKind
 | _ =>
  match <- whole path with
  | .bytes b => parseBytes b
  | .text s => parse s
  | _ => throw .noPart

end Files

namespace GraphMl

variable (e : Element)
variable (parts : Parts) (v : Value) (name type scope base method : String) (xs : Vals) (s : Option String) (root : Element) (keys : Keys)

def space : String := "http://graphml.graphdrawing.org/xmlns"

def own : Name := { space, base }

def drawn : Name := { space := "http://www.yworks.com/xml/graphml", base }

/-! ## Writing -/

structure Writer where
 keys : List ((String × String × String) × String) := []
 root : Element
 unwritable : Bool := false

abbrev Writing := ExceptT Fault (StateM Writer)

def blank : Writer where
 root := element "graphml" [("xmlns", space), ("xmlns:xsi", "http://www.w3.org/2001/XMLSchema-instance"),
  ("xsi:schemaLocation", space ++ " http://graphml.graphdrawing.org/xmlns/1.0/graphml.xsd")]

def typeName : Value -> Option String
 | .bool _ => some "boolean"
 | .int _ => some "long"
 | .float _ => some "double"
 | .text _ => some "string"
 | _ => none

def key (dflt : Value) : Writing String := do
 let w <- get
 if let some id := w.keys.lookup (name, type, scope) then return id
 else
  let id := s!"d{w.keys.length}"
  let e := element "key" [("id", id), ("for", scope), ("attr.name", name), ("attr.type", type)]
  let e := if dflt.isNull then e else e.push { element "default" [] with text := dflt.shown }
  set { w with keys := w.keys ++ [((name, type, scope), id)], root := w.root.pushFront e }
  return id

def attributes (e : Element) (data : Items) (dflt : Value) : Writing Element :=
 data.foldlM (fun e (k, v) => do
  let d <- if let .dict d := dflt then pure (Table.getD d k .null) else throw .noPart
  let some t := typeName v | fail s!"GraphML writer does not support <class '{v.kindName}'> as data values."
  return e.push { element "data" [("key", <- key k.shown t scope d)] with text := v.shown }) e

def addGraph (id : Value) (g : Graph) : Writing Unit := do
 let direction := ("edgedefault", if g.directed then "directed" else "undirected")
 let dflt name := g.attrs.items.getD name (.dict [])
 let e <- match id with
  | .null => pure (element "graph" [direction])
  | .text s => pure (element "graph" [direction, ("id", s)])
  | _ => do
   modify fun w => { w with unwritable := true }
   pure (element "graph" [direction])
 let attrs := g.attrs.items.filter (!Gml.isAmong ·.1 ["node_default", "edge_default"])
 let e <- attributes "graph" e attrs (.dict [])
 let e <- g.nodes.foldlM (fun e (n, r) =>
  return e.push (<- attributes "node" (element "node" [("id", n.shown)]) r.items (dflt "node_default"))) e
 let e <- g.edges.foldlM (fun e x => do
  let c := element "edge" [("source", x.src.shown), ("target", x.dst.shown)]
  let c <- attributes "edge" c x.items (dflt "edge_default")
  let c <- if let some k := x.key then attributes "edge" c [("key", k)] (dflt "edge_default") else pure c
  return e.push c) e
 modify fun w => { w with root := w.root.push e }

def pull : Work (Value × Graph) := do
 let g <- graph v
 let some id := g.attrs.items.get? "id" | return (.null, g)
 let g := { g with attrs := { g.attrs with items := g.attrs.items.erase "id" } }
 update v g
 return (id, g)

def compose (gs : List (Value × Graph)) : Writer × Res Unit :=
 gs.foldl (fun acc (id, g) =>
  let (r, w) := (addGraph id g).run.run acc.1
  (w, r)) (blank, .ok ())

def Writer.text (w : Writer) (pretty : Bool) : Res String :=
 if w.unwritable then .error .badKind else .ok (render pretty w.root)

def single (pretty : Bool) : Work String := do
 let (w, r) := compose [<- pull v]
 r
 w.text pretty

/-! ## Reading -/

structure Key where
 (name type : String)
 scope : Option String

abbrev Keys := List (Option String × Key)

def types : List (String × String) :=
 [("integer", "int"), ("yfiles", "str"), ("string", "str"), ("int", "int"), ("long", "int"), ("float", "float"),
  ("double", "float"), ("boolean", "bool")]

def optionValue : Value := s.elim .null .text

def typed : Res Value :=
 let v := optionValue s
 match type with
 | "int" => v.toInt
 | "float" => v.toFloat
 | "bool" => .ok (.bool v.truth)
 | _ => .ok v.shown

def blob : Option String := if e.text = "" then none else e.text

def shownOption : String := s.getD "None"

def keysOf : Res (Keys × List (Option String × Option String)) :=
 (root.findAll (own "key")).foldlM (fun acc k => do
  let id := k.get? "id"
  let (name, type) := if let some n := k.get? "yfiles.type" then (some n, "yfiles")
   else (k.get? "attr.name", (k.get? "attr.type").getD "string")
  let some name := name | fail s!"Unknown key for id {shownOption id} in file."
  let type <- opt .noKey (types.lookup type)
  let keys := acc.1.filter (·.1 != id) ++ [(id, { name, type, scope := k.get? "for" : Key })]
  let some d := k.find? (own "default") | return (keys, acc.2)
  let defaults := if acc.2.any (·.1 == id) then acc.2.map fun p => if p.1 == id then (id, blob d) else p
   else acc.2 ++ [(id, blob d)]
  return (keys, defaults)) ([], [])

def attr : Value := optionValue (e.get? name)

def drawing (data : Items) : Items :=
 let nodes := ["ShapeNode", "SVGNode", "ImageNode"]
 let data := nodes.foldl (fun data n =>
  if let some g := e.findPath? (drawn n) (drawn "Geometry") then (data.put "x" (attr g "x")).put "y" (attr g "y")
  else data) data
 let label (names : List String) kind data : Items :=
  match names.findSome? fun n => e.findPath? (drawn n) (drawn kind) with
  | some l => data.put "label" (optionValue (blob l))
  | none => data
 label ["PolyLineEdge", "SplineEdge", "QuadCurveEdge", "BezierEdge", "ArcEdge"] "EdgeLabel" (label nodes "NodeLabel" data)

def dataOf (e : Element) : Res Items :=
 (e.findAll (own "data")).foldlM (fun data d => do
  let id := d.get? "key"
  let some k := keys.lookup id | fail ("Bad GraphML data: no key " ++ shownOption id)
  if !d.kids.isEmpty then return drawing d data
  if d.text = "" then return data
  else if k.type = "bool" then
   let b <- opt .noKey
    ([("true", true), ("false", false), ("True", true), ("False", false)].lookup d.text)
   return data.put k.name b
  else return data.put k.name (<- typed k.type d.text)) []

def addEdge (g : Graph) (keys : Keys) (nodeType : Value) (e : Element) : Work (Graph × Bool) := do
 let direction := e.get? "directed"
 if g.directed && direction == some "false" then fail "directed=false edge found in directed graph."
 if !g.directed && direction == some "true" then fail "directed=true edge found in undirected graph."
 let lab <- get
 let u <- lab.apply nodeType [attr e "source"]
 let v <- lab.apply nodeType [attr e "target"]
 let data <- dataOf keys e
 let id := attr e "id"
 let data := if id.truth then data.put "id" id else data
 let again := g.hasEdge (<- u.key) (<- v.key)
 let (id, data) := if id.isNull then (data.getD "key" .null, data.erase "key") else (id, data)
 let (table, more) <- JsonGraph.passed data ["self", "u", "v", "key"]
 return (<- Edit.result g (.addEdge u v table more id), again)

def makeGraph (defaults : List (Option String × Option String)) (nodeType : Value)
 (multi : Bool) : Work (Graph × Bool) := do
 let mut g := Graph.new (e.get? "edgedefault" == some "directed") true
 let mut nodeDefault : Items := []
 let mut edgeDefault : Items := []
 for (id, text) in defaults do
  let some k := keys.lookup id | throw .noKey
  if k.scope == some "node" then nodeDefault := nodeDefault.put (.text k.name) (<- typed k.type text)
  if k.scope == some "edge" then edgeDefault := edgeDefault.put (.text k.name) (<- typed k.type text)
 g := (g.setAttr "node_default" (.dict nodeDefault)).setAttr "edge_default" (.dict edgeDefault)
 if (e.find? (own "hyperedge")).isSome then fail "GraphML reader does not support hyperedges"
 for n in e.findAll (own "node") do
  g <- Edit.result g (.addNode (<- (<- get).apply nodeType [attr n "id"]) (.dict (<- dataOf keys n)))
 let mut multi := multi
 for x in e.findAll (own "edge") do
  let (h, again) <- addEdge g keys nodeType x
  g := h
  multi := multi || again
 g := (<- dataOf keys e).foldl (fun g (k, v) => g.setAttr k v) g
 if multi then return (g, true)
 return (<- (Graph.new g.directed false).converted g, false)

def graphs (nodeType : Value) (multi : Bool) : Work (List Graph × Bool) := do
 let (keys, defaults) <- keysOf root
 (root.findAll (own "graph")).foldlM (fun (gs, multi) e => do
  let (g, multi) <- makeGraph e keys defaults nodeType multi
  return (gs ++ [g], multi)) ([], multi)

def src (path text : Value) : Work Element := do
 match path, text with
 | .null, .null => throw .badVal
 | .null, .text s => parse s
 | .null, .bytes b => parseBytes b
 | .null, _ => throw .badKind
 | path, _ => markup path

def firstGraph (path text nodeType : Value) : Work Value := do
 let g :: _ := (<- graphs (<- src path text) nodeType false).1 | throw .beyond
 keep g

/-! ## Writers and readers as things -/

def heldParts : Vals :=
 if let .list gs := parts.part "graphs" then gs else []

def held : Work (List (Value × Graph)) := (heldParts parts).mapM fun p => do
 let .tuple [id, g] := p | throw .badKind
 return (id, <- graph g)

def withGraph : Work (Parts × Res Value) := do
 let (id, g) <- pull v
 let (_, r) := compose ((<- held parts) ++ [(id, g)])
 return (parts.put "graphs" (.list (heldParts parts ++ [.tuple [id, <- keep g.copy]])), r.map fun _ => .null)

def askWriter : Work (Parts × Res Value):= do
 let pretty := (parts.part "prettyprint").truth
 let enc := parts.part "encoding"
 match method, xs with
 | "add_graph_element", [v] => withGraph parts v
 | "add_graphs", [vs] =>
  (<- items vs).foldlM (fun acc v => do
   let .error _ := acc.2 | withGraph acc.1 v
   return acc) (parts, .ok .null)
 | "__str__", [] => return (parts, .ok (.text (<- plainDocument enc (<- (compose (<- held parts)).1.text pretty))))
 | "dump", [out] =>
  write out (<- document enc (<- (compose (<- held parts)).1.text pretty))
  return (parts, .ok .null)
 | "add_graph_element", _ | "add_graphs", _ | "__str__", _ | "dump", _ => throw .badKind
 | _, _ => throw .noPart

def askReader (ks : Parts) : Work (Parts × Res Value):= do
 let "__call__" := method | throw .noPart
 let [path, text] <- bind (Param.parseAll "path? string?") xs ks | throw .badKind
 let (gs, multi) <- graphs (<- src path text) (parts.part "node_type") (parts.part "multigraph").truth
 return (parts.put "multigraph" multi, .ok (<- keepAll gs))

def cmds : List Cmd := [
 ⟨"write_graphml", "G path encoding=utf-8 prettyprint=True", opening 1 fun a => do
  let s <- single (a 0) (a.truth 3)
  write (a 1) (<- document (a 2) s)⟩,
 ⟨"generate_graphml", "G encoding=utf-8 prettyprint=True", fun a => do
  let s <- single (a 0) (a.truth 2)
  return Lines.texts (textLines (<- plainDocument (a 1) s))⟩,
 ⟨"read_graphml", "path node_type=str", fun a => firstGraph (a 0) .null (a 1)⟩,
 ⟨"parse_graphml", "graphml_string node_type=str", fun a => firstGraph .null (a 0) (a 1)⟩,
 ⟨"GraphMLWriter", "graph? encoding=utf-8 prettyprint=True", fun a => do
  let parts := [("encoding", a 1), ("prettyprint", a 2)]
  if a.isNull 0 then return .object "GraphMLWriter" parts
  let (parts, r) <- withGraph parts (a 0)
  discard r
  return .object "GraphMLWriter" parts⟩,
 ⟨"GraphMLReader", "node_type=str", fun a => return .object "GraphMLReader" [("node_type", a 0)]⟩]

end GraphMl

end DexLens.Network
