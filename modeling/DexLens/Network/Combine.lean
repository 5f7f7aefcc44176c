import DexLens.Network.Connectivity

/-! # Graphs made from other graphs -/

namespace DexLens.Network

open Graph Work

def Value.nth (i : Nat) : Value -> Res Value
 | tuple xs | list xs => opt .beyond xs[i]?
 | text s => opt .beyond ((s.toList[i]?).map (text ·.toString))
 | dict xs => Table.get xs (.nat i)
 | _ => .error .badKind

namespace Graph

variable (g h : Graph) (what : String) (es : List Edge)

def withRecordsOf (h g : Graph) : Graph :=
 g.nodes.foldl (fun h (n, r) =>
  if r.tag < Lab.tagSpace then { h with next := h.next + 1, nodes := h.nodes.put n ⟨h.next, r.items⟩ }
  else { h with nodes := h.nodes.put n r }) h

def withAttrsOf (h g : Graph) : Graph :=
 { h with attrs := { h.attrs with items := h.attrs.items.merge g.attrs.items } }

def sameMultiplicity : Res Unit :=
 if g.multi == h.multi then .ok () else fail "G and H must both be graphs or multigraphs."

def sameNodes : Bool := Value.set g.verts == .set h.verts

def marked (g : Graph) (start : Value) : Res Graph := do
 if start.isNull then return g
 g.relabelled fun n =>
  match start, n with
  | .text p, .text s => .ok (.text (p ++ s))
  | .text p, n => .ok (.text (p ++ n.quoted))
  | _, _ => .error .badKind

def together (r g h : Graph) : Graph :=
 let r := (r.addNodes g.verts).addAll g.edges
 (r.addNodes h.verts).addAll h.edges

def titled (name : Value) : Graph :=
 g.emptyLike.setAttr "name" (if name.isNull then s!"{what}( {g.name.shown}, {h.name.shown} )" else name)

def union (g h : Graph) (rename name : Value) : Res Graph := do
 g.sameMultiplicity h
 let r := g.titled h "union" name
 let g <- g.marked (<- rename.nth 0)
 let h <- h.marked (<- rename.nth 1)
 if g.verts.any h.hasNode then
  fail ("('The node sets of G and H are not disjoint.', " ++
   "'Use appropriate rename=(Gprefix,Hprefix)or use disjoint_union(G,H).')")
 return ((((r.together g h).withRecordsOf g).withRecordsOf h).withAttrsOf g).withAttrsOf h

def counted (g : Graph) (first : Nat) : Res Graph := do
 let names : Items := g.verts.zipIdx.map fun (n, i) => (n, .nat (first + i))
 let h <- g.relabelled fun n => .ok (names.getD n n)
 let .text s := g.name | .error .badKind
 return h.setName s!"({s})_with_int_labels"

def disjointUnion : Res Graph := do
 let a <- g.counted 0
 let r <- a.union (<- h.counted a.order) (.tuple [.null, .null]) .null
 let r := r.setName s!"disjoint_union( {g.name.shown}, {h.name.shown} )"
 return (r.withAttrsOf g).withAttrsOf h

def compose (g h : Graph) (name : Value) : Res Graph := do
 g.sameMultiplicity h
 let r := g.titled h "compose" name
 let r := (((r.addNodes h.verts).addNodes g.verts).addAll h.edges).addAll g.edges
 return (((r.withRecordsOf g).withRecordsOf h).withAttrsOf g).withAttrsOf h

def holds (g : Graph) (e : Edge) : Bool :=
 match e.key, g.bundle? e.src e.dst with
 | some k, some b => b.items.has k
 | none, b => b.isSome
 | _, none => false

def bareNodes : Graph :=
 (g.emptyLike.addNodes g.verts).setName s!"{what} of ({g.name.shown} and {h.name.shown})"

def plain : List Edge := es.map fun e => { e with items := [] }

def alike (fault : String) : Res Unit := do
 g.sameMultiplicity h
 if !g.sameNodes h then fail fault

def intersection : Res Graph := do
 g.alike h "Node sets of graphs are not equal"
 let es := if g.size ≤ h.size then g.edges.filter h.holds else h.edges.filter g.holds
 return (g.bareNodes h "Intersection").addAll (plain es)

def without : List Edge := plain (g.edges.filter (!h.holds ·))

def difference : Res Graph := do
 g.alike h "Node sets of graphs not equal"
 return (g.bareNodes h "Difference").addAll (g.without h)

def symmetricDifference : Res Graph := do
 g.alike h "Node sets of graphs not equal"
 return ((g.bareNodes h "Symmetric difference").addAll (g.without h)).addAll (h.without g)

/-! ## Products -/

def pairedItems (a b : Items) : Items :=
 (uniq (a.keys ++ b.keys)).map fun k => (k, .tuple [a.getD k .null, b.getD k .null])

def productNodes : Res Graph := do
 if g.directed != h.directed then fail "('G and H must be both directed or', 'both undirected')"
 let r := new g.directed (g.multi || h.multi)
 return g.nodes.foldl (fun r (u, a) => h.nodes.foldl (fun r (v, b) =>
  r.addNode (.tuple [u, v]) (pairedItems a.items b.items)) r) r

def pairedKey (e f : Edge) : Option Value :=
 match e.key, f.key with
 | some j, some k => some (.tuple [j, k])
 | some j, none => j
 | none, k => k

def edgePairs : List Edge :=
 es.flatMap fun e => h.edges.map fun f =>
  ⟨.tuple [e.src, f.src], .tuple [e.dst, f.dst], pairedKey e f, pairedItems e.items f.items⟩

def edgesByNodes : List Edge :=
 g.edges.flatMap fun e => h.verts.map fun x => { e with src := .tuple [e.src, x], dst := .tuple [e.dst, x] }

def nodesByEdges : List Edge :=
 g.verts.flatMap fun x => h.edges.map fun e => { e with src := .tuple [x, e.src], dst := .tuple [x, e.dst] }

def edgesByTwoNodes : List Edge :=
 g.edges.flatMap fun e => h.verts.flatMap fun x => h.verts.map fun y =>
  { e with src := .tuple [e.src, x], dst := .tuple [e.dst, y] }

def product (edges : Graph -> Graph -> List Edge) (g h : Graph) : Res Graph := do
 let r <- g.productNodes h
 let r := r.addAll (edges g h)
 let (.text a, .text b) := (g.name, h.name) | .error .badKind
 return r.setName s!"{what} product({a},{b})"

def tensorEdges : List Edge :=
 h.edgePairs g.edges ++ if g.directed then [] else h.edgePairs (g.edges.map fun e => { e with src := e.dst, dst := e.src })

def complement (g : Graph) (name : Value) : Res Graph := do
 let name <- if name.isNull then pure (.text ("complement(" ++ (<- g.name.filling) ++ ")")) else pure name
 let r := (g.emptyLike.setAttr "name" name).addNodes g.verts
 return r.addEdges (g.succ.flatMap fun (n, row) =>
  (g.verts.filter fun m => !row.has m && !n == m).map (n, ·))

end Graph

namespace Combine

section

variable (gs : Vals) (f : Graph -> Graph -> Res Graph) (a : Args)

def binary : Work Value := do keep (<- f (<- a.graph) (<- a.graph 1))

def folding : Work Value := do
 let g :: rest := gs | throw .exhausted
 rest.foldlM (fun acc h => do keep (<- f (<- graph acc) (<- graph h))) g

def unionAll : Work Value := do
 let gs <- a.items 0
 let names <- a.items 1
 let (g, start) :: rest := (List.range (max gs.length names.length)).map fun i => (gs.getD i .null, names.getD i .null) | throw .exhausted
 let (r, _) <- rest.foldlM (fun acc (h, mark) =>
  return (<- keep (<- (<- graph acc.1).union (<- graph h) (.tuple [acc.2, mark]) (a 2)), .null)) (g, start)
 return r

end

def cmds : List Cmd := [
 ⟨"union", "G H rename=(None,None) name?", fun a => binary (·.union · (a 2) (a 3)) a⟩,
 ⟨"disjoint_union", "G H", binary disjointUnion⟩,
 ⟨"compose", "G H name?", fun a => binary (·.compose · (a 2)) a⟩,
 ⟨"intersection", "G H", binary intersection⟩,
 ⟨"difference", "G H", binary difference⟩,
 ⟨"symmetric_difference", "G H", binary symmetricDifference⟩,
 ⟨"union_all", "graphs rename=(None) name?", unionAll⟩,
 ⟨"disjoint_union_all", "graphs", fun a => do folding (<- a.items 0) disjointUnion⟩,
 ⟨"compose_all", "graphs name?", fun a => do folding (<- a.items 0) (·.compose · (a 1))⟩,
 ⟨"intersection_all", "graphs", fun a => do folding (<- a.items 0) intersection⟩,
 ⟨"tensor_product", "G H", binary (product "Tensor" tensorEdges)⟩,
 ⟨"cartesian_product", "G H", binary (product "Cartesian" fun g h => g.edgesByNodes h ++ g.nodesByEdges h)⟩,
 ⟨"lexicographic_product", "G H", binary (product "Lexicographic" fun g h => g.edgesByTwoNodes h ++ g.nodesByEdges h)⟩,
 ⟨"strong_product", "G H", binary (product "Strong" fun g h => g.nodesByEdges h ++ g.edgesByNodes h ++ g.tensorEdges h)⟩,
 ⟨"complement", "G name?", complement⟩,
 .of "reverse" "G copy=True" fun g a => do
  if !g.directed then fail "Cannot reverse an undirected graph."
  Method.call (a 0) "reverse" [a 1] []]

end Combine

end DexLens.Network
