import DexLens.Network.Format.GraphMl

/-! # Graphs as markup with times and drawings

Attributes are declared in front of the nodes. One whose value is a list changes with time.
-/

namespace DexLens.Network.Gexf

open Files GraphMl Markup Table Value

variable (v : Version)
variable (e : Element) (g : Graph) (parts : Parts) (owner method : String) (xs : Vals) (type s : Option String) (e : Element)

structure Version where
 (space number : String)

def versions : List (String × Version) :=
 ["1.1", "1.2"].map fun n => (n ++ "draft", ⟨"http://www.gexf.net/" ++ n ++ "draft", n⟩)

def version (v : Value) : Res Version := do
 discard v.key
 let some x := (match v with | .text s => versions.lookup s | _ => none) | fail ("Unknown GEXF version " ++ (<- v.filling))
 return x

def Version.own (v : Version) (base : String) : Name := { space := v.space, base }

def Version.drawn (v : Version) (base : String) : Name := { space := v.space ++ "/viz", base }

/-! ## Writing -/

/-- Declared attributes by what they belong to, whether they change with time, and title. -/
abbrev Declared := List ((String × String × String) × String)

structure Writer where
 version : Version
 root : Element
 graph : Element := default
 declared : Declared := []
 nextEdge : Nat := 0

abbrev Writing := ExceptT Fault (StateM Writer)

def blank : Writer where
 version := v
 root := element "gexf" [("xmlns", v.space), ("xmlns:xsi", schema), ("xmlns:viz", v.space ++ "/viz"),
  ("xsi:schemaLocation", schema), ("version", v.number)]
where
 schema : String := "http://www.w3.org/2001/XMLSchema-instance"

def typeName : Value -> Res String
 | .list _ | .dict _ | .text _ => .ok "string"
 | .int _ => .ok "long"
 | .float _ => .ok "double"
 | .bool _ => .ok "boolean"
 | _ => .error .noKey

def note (moment : Value) : Writing Unit := do
 let w <- get
 if w.graph.get? "mode" == some "static" && !moment.isNull then
  let format <- match moment with
   | .text _ => pure "date"
   | .float _ => pure "double"
   | .int _ => pure "long"
   | _ => throw .unbound
  set { w with graph := (w.graph.set "timeformat" format).set "mode" "dynamic" }

def declare (g : Element) (owner mode : String) (e : Element) : Element :=
 let fits (c : Element) :=
  c.name = "attributes" && c.get? "class" == some owner && (c.get? "mode").getD "static" == mode
 match (g.kids.zipIdx.filter (fits ·.1)).getLast? with
 | some (_, i) => { g with kids := g.kids.mapIdx fun j c => if j = i then c.push e else c }
 | none => g.pushFront ((element "attributes" [("mode", mode), ("class", owner)]).push e)

def attrId (title type owner : String) (dflt : Value) (mode : String) : Writing String := do
 let w <- get
 if let some id := w.declared.lookup (owner, mode, title) then return id
 else
  let id := toString w.declared.length
  let w := { w with declared := w.declared ++ [((owner, mode, title), id)] }
  set w
  let d <- if let .dict d := dflt then pure (getD d (.text title) .null) else throw .noPart
  let e := element "attribute" [("id", id), ("title", title), ("type", type)]
  let e := if d.isNull then e else e.push { element "default" [] with text := d.shown }
  set { w with graph := declare w.graph owner mode e }
  return id

def moment (name : String) (v : Value) : List (String × String) := if v.isNull then [] else [(name, v.shown)]

def changing (title : String) (vs : Vals) (dflt : Value) (mode : String) : Writing (List Element × String) := do
 let mut mode := mode
 let mut type := .list vs
 for v in vs do
  let (x, first, last) <- v.three
  type := x
  if !first.isNull || !last.isNull then
   mode := "dynamic"
   note first
   note last
   break
 let id <- attrId title (<- typeName type) owner dflt mode
 let es <- vs.mapM fun v => do
  let (x, first, last) <- v.three
  return element "attvalue" ([("for", id), ("value", x.shown)] ++ moment "start" first ++ moment "end" last)
 return (es, mode)

def attributes (data : Items) (dflt : Value) : Writing Element := do
 if data.isEmpty then return e
 let (values, _) <- data.foldlM (fun acc (k, v) => do
  let title := if k.same "key" then "networkx_key" else k.shown
  match v with
  | .list vs =>
   let (es, mode) <- changing owner title vs dflt acc.2
   return (es.foldl .push acc.1, mode)
  | v =>
   let id <- attrId title (<- typeName v) owner dflt "static"
   let s := match v with
    | .bool b => if b then "true" else "false"
    | v => v.shown
   return (acc.1.push (element "attvalue" [("for", id), ("value", s)]), "static"))
  (element "attvalues" [], "static")
 return e.push values

def part (v name : Value) : Res Value := do
 let .dict d := v | .error .noPart
 .ok (getD d name .null)

def drawing (viz : Value) : Res Element := do
 if !viz.truth then return e
 let coordinates of (names : List String) := names.mapM fun n => return (n, (<- part of (.text n)).shown)
 let mut e := e
 let colour <- part viz "color"
 if !colour.isNull then
  e := e.push (element (v.drawn "color")
   (<- coordinates colour (["r", "g", "b"] ++ if v.number = "1.1" then [] else ["a"])))
 for name in ["size", "thickness"] do
  let x <- part viz (.text name)
  if !x.isNull then e := e.push (element (v.drawn name) [("value", x.shown)])
 match <- part viz "shape" with
 | .null => pure ()
 | .text s =>
  e := e.push (element (v.drawn "shape")
   (if Text.startsWith s "http" then [("value", "image"), ("uri", s)] else [("value", s)]))
 | _ => .error .noPart
 let place <- part viz "position"
 if !place.isNull then e := e.push (element (v.drawn "position") (<- coordinates place ["x", "y", "z"]))
 return e

section

variable (d : Items) (e : Element) (name v : Value)

def spells : Writing Element := do
 if !v.truth then return e
 let es <- (<- v.items).mapM fun s => do
  let (first, last) <- s.two
  note first
  note last
  return element "spell" (moment "start" first ++ moment "end" last)
 return e.push { element "spells" [] with kids := es }

def parents : Res Element := do
 if !v.truth then return e
 let es := (<- v.items).map fun p => element "parent" [("for", p.shown)]
 return e.push { element "parents" [] with kids := es }

def pop : Option Value × Items := (d.get? name, d.erase name)

def popOr : Value × Items := (d.getD name false, d.erase name)

end

def finish (d : Items) (dflt : Value) : Writing Element := do
 let (ss, d) := popOr d "spells"
 let e <- spells e ss
 let (viz, d) := popOr d "viz"
 attributes owner (<- drawing (<- get).version e viz) d dflt

def node (n : Value) (items : Items) (dflt : Value) : Writing Element := do
 let (id, d) := pop items "id"
 let (label, d) := pop d "label"
 let (pid, d) := pop d "pid"
 let e := element "node" ([("id", (id.getD n).shown), ("label", (label.getD n).shown)] ++
  (pid.map ("pid", ·.shown)).toList)
 let (ps, d) := popOr d "parents"
 finish "node" (<- parents e ps) d dflt

def edge (u v : Value) (x : Edge) (dflt : Value) : Writing Element := do
 let d := x.key.elim x.items (x.items.put "key")
 let (id, d) := pop d "id"
 let id <- match id.getD .null with
  | .null => do
   let w <- get
   set { w with nextEdge := w.nextEdge + 1 }
   pure (nat w.nextEdge)
  | id => pure id
 let (weight, d) := pop d "weight"
 let (type, d) := pop d "type"
 let (first, d) := pop d "start"
 if let some m := first then note m
 let (last, d) := pop d "end"
 if let some m := last then note m
 let given name v := (v.map (name, ·.shown)).toList
 let e := element "edge" ([("source", u.shown), ("target", v.shown), ("id", id.shown)] ++
  given "weight" weight ++ given "type" type ++ given "start" first ++ given "end" last)
 finish "edge" e d dflt

def pushToGraph : Writing Unit := modify fun w => { w with graph := w.graph.push e }

def addGraph : Writing Unit := do
 let mode := if (g.attrs.items.getD "mode" .null).same "dynamic" then "dynamic" else "static"
 let direction := if g.directed then "directed" else "undirected"
 modify fun w => { w with graph := element "graph" [("defaultedgetype", direction), ("mode", mode)] }
 let dflt name := g.attrs.items.getD name (.dict [])
 let ns <- g.nodes.mapM fun (n, r) => node n r.items (dflt "node_default")
 pushToGraph { element "nodes" [] with kids := ns }
 let id n := (g.nodeItems n).getD "id" n
 let es <- g.edges.mapM fun x => edge (id x.src) (id x.dst) x (dflt "edge_default")
 pushToGraph { element "edges" [] with kids := es }
 modify fun w => { w with root := w.root.push w.graph }

def compose (gs : List Graph) : Writer × Res Unit :=
 gs.foldl (fun acc g =>
  let (r, w) := (addGraph g).run.run acc.1
  (w, r)) (blank v, .ok ())

def single (pretty : Bool) : Res String := do
 let (w, r) := compose v [g]
 r
 return render pretty w.root

/-! ## Reading -/

structure Key where
 (title type mode : Option String)

abbrev Keys := List (Option String × Key)

def types : List (String × String) :=
 [("integer", "int"), ("float", "float"), ("double", "float"), ("boolean", "bool"), ("string", "str"),
  ("long", "int"), ("liststring", "str"), ("anyURI", "str")]

def typed : Res Value := do
 GraphMl.typed (<- opt .noKey (type.bind (types.lookup ·))) s

def strictly : Res Value :=
 if type == some "boolean" then
  match s with
  | some "true" | some "True" => .ok (.bool true)
  | some "false" | some "False" => .ok (.bool false)
  | _ => .error .noKey
 else typed type s

structure Context where
 version : Version
 nodeType : Value
 timeFormat : Option String
 nodeKeys : Keys := []
 edgeKeys : Keys := []

namespace Context

variable (c : Context) (e : Element) (data : Items)

def time (s : Option String) : Res Value := typed c.timeFormat s

def attributes (keys : Keys) (e : Element) : Res Items := do
 let some vs := e.find? (c.version.own "attvalues") | return []
 (vs.findAll (c.version.own "attvalue")).foldlM (fun data a => do
  let id := a.get? "for"
  let some k := keys.lookup id | fail ("No attribute defined for=" ++ shownOption id)
  let v <- strictly k.type (a.get? "value")
  let title := optionValue k.title
  if k.mode == some "dynamic" then
   let first <- c.time (a.get? "start")
   let last <- c.time (a.get? "end")
   match data.get? title with
   | some (.list xs) => return data.put title (.list (xs ++ [.tuple [v, first, last]]))
   | some _ => .error .noPart
   | none => return data.put title (.list [.tuple [v, first, last]])
  else return data.put title v) []

def parents (c : Context) (e : Element) (data : Items) : Items :=
 match e.find? (c.version.own "parents") with
 | some ps => data.put "parents" ((ps.findAll (c.version.own "parent")).map (attr · "for"))
 | none => data

def spells (c : Context) (e : Element) (data : Items) : Res Items := do
 let some ss := e.find? (c.version.own "spells") | return data
 let xs <- (ss.findAll (c.version.own "spell")).mapM fun s =>
  return tuple [<- c.time (s.get? "start"), <- c.time (s.get? "end")]
 return data.put "spells" xs

def span : Res Items :=
 ["start", "end"].foldlM (fun data name => match e.get? name with
  | some s => return data.put name (<- c.time s)
  | none => return data) data

def drawing : Res Items := do
 let v := c.version
 let number (e : Element) name (dflt : Option String) : Res Value := GraphMl.typed "float" ((e.get? name).or dflt)
 let mut viz : Items := []
 if let some x := e.find? (v.drawn "color") then
  let rgb <- ["r", "g", "b"].mapM fun n => return ((.text n, <- GraphMl.typed "int" (x.get? n)) : Value × Value)
  let a <- if v.number = "1.1" then pure [] else do
   let a <- number x "a" (some "1")
   pure [(text "a", a)]
  viz := viz.put "color" (.dict (rgb ++ a))
 for name in ["size", "thickness"] do
  if let some x := e.find? (v.drawn name) then viz := viz.put name (<- number x "value" none)
 if let some x := e.find? (v.drawn "shape") then
  let s := attr x "shape"
  viz := viz.put "shape" (if s.same "image" then attr x "uri" else s)
 if let some x := e.find? (v.drawn "position") then
  viz := viz.put "position" (<- ["x", "y", "z"].mapM fun n => return ((n, <- number x n ("0")) : Value × Value))
 return if viz.isEmpty then data else data.put "viz" viz

def identity (v : Value) : Work Value := do if c.nodeType.isNull then return v else (<- get).apply c.nodeType [v]

end Context

mutual

def addNode (c : Context) (pid : Value) (g : Graph) : Element -> Work Graph
 | e@⟨_, _, _, kids⟩ => do
  let data <- c.attributes c.nodeKeys e
  let data <- c.spells e (c.parents e data)
  let data <- c.span e (<- c.drawing e data)
  let id <- c.identity (attr e "id")
  let data := data.put "label" (attr e "label")
  let pid := (e.get? "pid").elim pid text
  let data := if pid.isNull then data else data.put "pid" pid
  let g <- addInner c id g kids
  Edit.result g (Edit.addNode id (.dict data))

def addInner (c : Context) (pid : Value) (g : Graph) : List Element -> Work Graph
 | [] => return g
 | ⟨name, _, _, ns⟩ :: es => if name = c.version.own "nodes" then addNodes c pid g ns else addInner c pid g es

def addNodes (c : Context) (pid : Value) (g : Graph) : List Element -> Work Graph
 | [] => return g
 | e :: es => do
  if e.name = c.version.own "node" then addNodes c pid (<- addNode c pid g e) es
  else addNodes c pid g es

end

def addEdge (c : Context) (g : Graph) (e : Element) : Work (Graph × Bool) := do
 let direction := e.get? "type"
 if g.directed && direction == some "undirected" then fail "Undirected edge found in directed graph."
 if !g.directed && direction == some "directed" then fail "Directed edge found in undirected graph."
 let u <- c.identity (attr e "source")
 let v <- c.identity (attr e "target")
 let data <- c.attributes c.edgeKeys e
 let data <- c.spells e (<- c.span e data)
 let id := attr e "id"
 let data := if id.isNull then data else data.put "id" id
 let key := match data.get? "networkx_key" with
  | some .null | none => id
  | some k => k
 let data := data.erase "networkx_key"
 let data <- if let some w := e.get? "weight" then do pure (data.put "weight" (<- GraphMl.typed "float" (some w)))
  else pure data
 let data := (e.get? "label").elim data fun l => data.put "label" (.text l)
 let again := g.hasEdge (<- u.key) (<- v.key)
 if data.any (·.1.isNull) then throw .badKind
 let (table, more) <- JsonGraph.passed data ["self", "u", "v", "key"]
 let g <- Edit.result g (.addEdge u v table more key)
 if direction == some "mutual" then return (<- Edit.result g (.addEdge v u table more key), again)
 return (g, again)

def declarations : Res (Keys × Items) :=
 (e.findAll (v.own "attribute")).foldlM (fun acc k => do
  let key : Key := { title := k.get? "title", type := k.get? "type", mode := e.get? "mode" }
  let keys := acc.1.filter (·.1 != k.get? "id") ++ [(k.get? "id", key)]
  let some d := k.find? (v.own "default") | return (keys, acc.2)
  return (keys, acc.2.put (optionValue key.title) (<- strictly key.type (blob d)))) ([], [])

def override (old new : Keys) : Keys := old.filter (fun p => !new.any (·.1 == p.1)) ++ new

def makeGraph (nodeType : Value) (isSimple : Bool) (e : Element) : Work (Graph × Bool) := do
 let mut g := Graph.new (e.get? "defaultedgetype" == some "directed") true
 for name in ["start", "end"] do if let some s := e.get? name then g := g.setAttr (.text name) (.text s)
 g := g.setAttr "mode" (if e.get? "mode" == some "dynamic" then "dynamic" else "static")
 let format := e.get? "timeformat"
 let mut c : Context := { version := v, nodeType, timeFormat := if format == some "date" then some "string" else format }
 let mut nodeDefault : Items := []
 let mut edgeDefault : Items := []
 for a in e.findAll (v.own "attributes") do
  let owner := a.get? "class"
  if owner == some "node" then
   let (keys, ds) <- declarations v a
   c := { c with nodeKeys := override c.nodeKeys keys }
   nodeDefault := nodeDefault.merge ds
   g := g.setAttr "node_default" (.dict nodeDefault)
  else if owner == some "edge" then
   let (keys, ds) <- declarations v a
   c := { c with edgeKeys := override c.edgeKeys keys }
   edgeDefault := edgeDefault.merge ds
  else throw .nothingFailed
 c := { c with edgeKeys := override c.edgeKeys [(some "weight", ⟨some "weight", some "double", some "static"⟩)] }
 g := g.setAttr "edge_default" (.dict edgeDefault)
 g <- addInner c .null g e.kids
 let mut simple := isSimple
 if let some es := e.find? (v.own "edges") then
  for x in es.findAll (v.own "edge") do
   let (h, again) <- addEdge c g x
   g := h
   simple := simple && !again
 if simple then return (<- (Graph.new g.directed false).converted g, true)
 return (g, false)

def read (root : Element) (v : Version) (nodeType : Value) (isSimple : Bool) : Work (Graph × Bool) := do
 let some (v, e) := (v :: versions.map (·.2)).findSome? fun v => (root.find? (v.own "graph")).map (v, ·) | fail "No <graph> element in GEXF file"
 makeGraph v nodeType isSimple e

def relabelled : Res Graph := do
 let (names, h) <- Gml.labelled g fun
  | some l => pure l
  | none => fail "Failed to relabel nodes: missing node labels found. Use relabel=False."
 names.foldlM (fun h (n, m) => do
  let old := g.nodeItems n
  let d := ((h.nodeItems m).put "id" n).erase "label"
  let d <- if let some p := old.get? "pid" then pure (d.put "pid" (<- get names (<- p.key))) else pure d
  let d <- match old.get? "parents" with
   | some ps => pure (d.put "parents" (<- (<- ps.items).mapM fun p => do get names (<- p.key)))
   | none => pure d
  return (h.nodes.get? m).elim h fun r => { h with nodes := h.nodes.put m { r with items := d } }) h

/-! ## Writers as things -/

def askWriter : Work (Parts × Res Value):= do
 let pretty := (parts.part "prettyprint").truth
 let enc := parts.part "encoding"
 let v <- version (parts.part "version")
 let old := heldParts parts
 let gs <- old.mapM .graph
 let s := render pretty (compose v gs).1.root
 match method, xs with
 | "add_graph", [x] =>
  let g <- .graph x
  let (_, r) := compose v (gs ++ [g])
  return (parts.put "graphs" (.list (old ++ [<- keep g.copy])), r.map fun _ => .null)
 | "__str__", [] => return (parts, .ok (.text (<- plainDocument enc s)))
 | "write", [out] =>
  write out (<- document enc s)
  return (parts, .ok .null)
 | "add_graph", _ | "__str__", _ | "write", _ => throw .badKind
 | _, _ => throw .noPart

def askReader : Work (Parts × Res Value):= do
 match method, xs with
 | "__call__", [path] =>
  let v <- version (parts.part "version")
  let (g, simple) <- read (<- markup path) v (parts.part "node_type") (parts.part "simple_graph").truth
  return (parts.put "simple_graph" simple, .ok (<- keep g))
 | "__call__", _ => throw .badKind
 | _, _ => throw .noPart

def cmds : List Cmd := [
 ⟨"readwrite.gexf.GEXFReader", "node_type? version='1.1draft'", fun a => do
  discard (version (a 1))
  return .object "GEXFReader"
   [("node_type", a 0), ("version", a 1), ("simple_graph", .bool true)]⟩,
 ⟨"write_gexf", "G path encoding=utf-8 prettyprint=True version='1.1draft'", opening 1 fun a => do
  let v <- version (a 4)
  write (a 1) (<- document (a 2) (<- single v (<- a.graph) (a.truth 3)))⟩,
 ⟨"generate_gexf", "G encoding=utf-8 prettyprint=True version='1.1draft'", fun a => do
  let v <- version (a 3)
  return Lines.texts (textLines (<- plainDocument (a 1) (<- single v (<- a.graph) (a.truth 2))))⟩,
 ⟨"read_gexf", "path node_type? relabel=False version='1.1draft'", fun a => do
  if let .text name := a 0 then discard (blob name)
  let v <- version (a 3)
  let (g, _) <- read (<- markup (a 0)) v (a 1) true
  if a.truth 2 then keep (<- relabelled g) else keep g⟩,
 ⟨"relabel_gexf_graph", "G", relabelled⟩,
 ⟨"readwrite.gexf.GEXFWriter", "graph? encoding=utf-8 prettyprint=True version='1.1draft'", fun a => do
  discard (version (a 3))
  let parts := [("encoding", a 1), ("prettyprint", a 2), ("version", a 3)]
  if a.isNull 0 then return .object "GEXFWriter" parts
  let (parts, r) <- askWriter parts "add_graph" [a 0]
  discard r
  return .object "GEXFWriter" parts⟩]

end DexLens.Network.Gexf
