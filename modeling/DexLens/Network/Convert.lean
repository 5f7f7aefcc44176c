import DexLens.Network.Apply

/-! # Graphs from other data, and other data from graphs -/

namespace DexLens.Network

open Edit List Table Value Work

def Graph.adjacency (g : Graph) : Items := g.succ.map fun (n, row) => (n, rowValue row)

namespace Edit

variable (d : Items) (rows : List Vals)

section

variable (keyed always : Bool) (f : Value -> Value -> Value -> Edit Unit)

def eachEntry : Edit Unit := d.forM fun (u, row) => do (<- row.asDict).forM fun (v, x) => f u v x

def eachEntryOnce : Edit Unit := do
 let _ <- d.foldlM (fun seen (u, row) => do
  (<- row.asDict).foldlM (fun seen (v, x) => do
   if seen.any fun (a, b) => a == u && b == v then return if always then seen ++ [(v, u)] else seen
   else
    f u v x
    return seen ++ [(v, u)]) seen) []

def fromTables : Edit Unit := do
 addNodesFrom d.keys
 let g <- get
 if keyed then
  let several u v x := do
   (<- x.asDict).forM fun (k, y) => addListedEdge (if g.multi then .tuple [u, v, k, y] else .tuple [u, v, y]) []
  if g.directed then eachEntry d several else eachEntryOnce d false several
 else if g.multi && !g.directed then eachEntryOnce d true (addEdge · · ·)
 else eachEntry d fun u v x => addListedEdge (.tuple [u, v, x]) []

end

def fromLists (items : Value -> Option Vals) : Edit Unit := do
 addNodesFrom d.keys
 let g <- get
 let each v : Edit Vals := liftM (opt .badKind (items v))
 if g.multi && !g.directed then
  let _ <- d.foldlM (fun seen (u, row) => do
   (<- each row).forM fun v => do
    checkKey v
    if seen.contains v then return else addEdge u v
   return u :: seen) []
 else d.forM fun (u, row) => do (<- each row).forM fun v => addListedEdge (.tuple [u, v]) []

def fromMatrix (entry : Value) : Edit Unit := do
 let n := rows.length
 addNodesFrom ((range n).map nat)
 (range n).forM fun i => do
  let row := rows.getD i []
  (range row.length).forM fun j => do
   let x := row.getD j 0
   if x.truth then addListedEdge (.tuple [i, j, [(entry, x)]]) []

def fromRecords (names : Vals) : Edit Unit := do
 addNodesFrom ((range rows.length).map nat)
 rows.zipIdx.forM fun (row, i) =>
  row.zipIdx.forM fun (x, j) => do
   let .tuple parts := x | throw .badKind
   if parts.any truth then addEdge (.nat i) (.nat j) (.dict (names.zip parts))

end Edit

def Graph.converted (base g : Graph) : Res Graph := do
 let h <- result base.clear (fromTables g.adjacency g.multi)
 let nodes := g.nodes.zipIdx.map fun ((n, r), i) => (n, (⟨h.next + 1 + i, r.items⟩ : Record))
 return { h with
  next := h.next + 1 + nodes.length
  attrs := ⟨h.next, g.attrs.items⟩
  nodes }

def Graph.rebuilt (g : Graph) : Res Graph := if g.bare then .error .unknownName else g.emptyLike.converted g

def Value.rows : Value -> Res (List Vals)
 | array xs | sparse _ _ xs | object "recarray" (("rows", array xs) :: _) => each xs
 | _ => .error .noPart
where
 each (xs : Vals) : Res (List Vals) := xs.mapM fun x => do
  let array ys := x | .error .badVal
  .ok ys

namespace Work

def prepare (base : Value) : Work Value := do
 match base with
 | .null => keep {}
 | .graph _ =>
  let g <- graph base
  if g.frozen then throw .badKind
  update base g.clear
  return base
 | .list _ | .dict _ | .set _ => return base
 | _ => throw .badKind

def build (base : Value) (changes : Edit Unit) : Work Value := do
 let ref <- prepare base
 edit ref changes
 return ref

def blaming {α : Type} (cause : Fault) (w : Work α) : Work α := tryCatch w fun _ => throw cause

def oblong? (rows : List Vals) : Option String :=
 let width := (rows.headD []).length
 if rows.length = width then none
 else s!"nx,ny=({rows.length}, {width})"

def ofMatrix (m base : Value) : Work Value := do
 let ref <- prepare base
 let rows <- m.rows
 if let some shape := oblong? rows then fail s!"('Adjacency matrix is not square.', '{shape}')"
 match m with
 | .sparse _ _ _ => throw .badKind
 | .object _ parts =>
  let names <- if let some (.list names) := parts.lookup "names" then pure names else throw .badKind
  edit ref (fromRecords rows names)
 | _ => edit ref (fromMatrix rows "weight")
 return ref

def ofSparse (m base entry : Value) : Work Value := do
 let ref <- prepare base
 let rows <- m.rows
 if let some shape := oblong? rows then fail ("Adjacency matrix is not square. " ++ shape)
 edit ref (addNodesFrom ((range rows.length).map nat))
 let (format, kept) <- if let .sparse format entries _ := m then pure (format, entries) else throw .noPart
 let places := rows.zipIdx.flatMap fun (r, i) =>
  (r.zipIdx.filter (·.1.truth)).map fun (x, j) => tuple [.nat i, .nat j, x]
 let entries := if kept.isEmpty then places else kept
 if format = "bsr" && !entries.isEmpty then throw .notImplemented
 let name <- if let .text _ := entry then pure entry else if entries.isEmpty then pure entry else throw .badKind
 edit ref (entries.forM fun e => do
  let (i, j, x) <- e.three
  addEdge i j .null [(name, x)])
 return ref

def convert (data base : Value) (keyed : Bool := false) : Work Value := do
 let lab <- get
 if let some g := lab.graph? data then
  blaming (.graph .fail "Input is not a correct NetworkX graph.") do
   let ref <- prepare base
   update ref (<- (<- graph ref).converted g)
   return ref
 else
  match data with
  | .dict d =>
   tryCatch (build base (fromTables d keyed)) fun _ => blaming .badKind (build base (fromLists d lab.items?))
  | .list xs | .tuple xs | .stream xs =>
   blaming (.graph .fail "Input is not a valid edge list") (build base (addEdgesFrom xs))
  | .array _ | .object "recarray" _ =>
   blaming (.graph .fail "Input is not a correct numpy matrix or array.") (ofMatrix data base)
  | .sparse _ _ _ =>
   blaming (.graph .fail "Input is not a correct scipy sparse matrix type.") (ofSparse data base "weight")
  | .text _ => fail "Input is not a correct scipy sparse matrix type."
  | _ => fail "Input is not a known data type for conversion."

def construct (g : Graph) (data : Value) (attrs : Items) : Work Value := do
 let ref <- keep g
 if !data.isNull then
  if g.bare then throw .unknownName
  discard (convert data ref)
 let g <- graph ref
 update ref { g with attrs := { g.attrs with items := g.attrs.items.merge attrs } }
 return ref

end Work

namespace Convert

variable (a : Args)

def class? (name : String) : Option Graph :=
 if name = "Graph" then some {}
 else if name = "DiGraph" then some (.new true false)
 else if name = "MultiGraph" then some (.new false true)
 else if name = "MultiDiGraph" then some (.new true true)
 else if name = "ganalysis.Graph" then some { bare := true }
 else if name = "ganalysis.DiGraph" then some { directed := true, bare := true }
 else none

def isAmong (lab : Lab) (v collection : Value) : Res Bool :=
 if let some g := lab.graph? collection then .ok (g.contains v)
 else
  match collection with
  | .dict xs => return has xs (<- v.key)
  | .set xs => return xs.contains (<- v.key)
  | .text s => do
   let .text t := v | .error .badKind
   .ok (Text.contains s t)
  | c => return (<- c.items).contains v

def toLists : Work Value := do
 let g <- a.graph
 let lab <- get
 let among := if a.isNull 1 then a 0 else a 1
 let t <- (<- .items among).mapM fun n => return (n, list (<- (<- g.neighbors n).filterM (isAmong lab · among)))
 return ofList t

def toTables : Work Value := do
 let g <- a.graph
 let lab <- get
 let value (b : Bundle) := if a.isNull 2 then .dict b.items else a 2
 if a.isNull 1 then return .dict (g.succ.map fun (n, row) => (n, .dict (row.map fun (v, b) => (v, value b))))
 let t <- (<- a.items 1).mapM fun n => do
  let row <- (<- g.row n).filterM fun (v, _) => isAmong lab v (a 1)
  return (n, dict (row.map fun (v, b) => (v, value b)))
 return .dict (ofList t)

def toEdges : Work Value := do
 let g <- a.graph
 return (g.edgesOf (<- g.bunch (a 1) (<- a.items? 1))).map (·.value false true)

def buildFrom (f : Items -> Lab -> Edit Unit) : Work Value := do
 let lab <- get
 build (a 1) (do
  match a 0 with
  | .dict d => f d lab
  | d =>
   addNodesFrom (<- liftM (opt .badKind (lab.items? d)))
   throw .noPart)

def cmds : List Cmd := [
 ⟨"to_networkx_graph", "data create_using? multigraph_input=False", convert⟩,
 ⟨"convert.convert_to_undirected", "G", Graph.toUndirected⟩,
 ⟨"convert.convert_to_directed", "G", Graph.toDirected⟩,
 ⟨"to_dict_of_lists", "G nodelist?", toLists⟩,
 ⟨"from_dict_of_lists", "d create_using?", fun a => buildFrom a (fromLists · ·.items?)⟩,
 ⟨"to_dict_of_dicts", "G nodelist? edge_data?", toTables⟩,
 ⟨"from_dict_of_dicts", "d create_using? multigraph_input=False", fun a =>
  buildFrom a fun d _ => fromTables d (a.truth 2)⟩,
 ⟨"to_edgelist", "G nodelist?", toEdges⟩,
 ⟨"from_edgelist", "edgelist create_using?", fun a => do
  let lab <- get
  build (a 1) do addEdgesFrom (<- liftM (opt .badKind (lab.items? (a 0))))⟩]

end Convert

end DexLens.Network
