import DexLens.Network.Value
import DexLens.Word

/-! # Graphs

Edges are directed or not; in a multigraph several edges, told apart by keys, can join two nodes. Nodes, neighbours
and keys keep their order.
-/

namespace DexLens.Network

/-- Attributes. Graphs that hold records with the same tag hold one record in common. -/
structure Record where
 tag : Nat
 items : Items
 deriving Inhabited

inductive Bundle where
 | one (r : Record)
 | many (rs : Table Record)
 deriving Inhabited

namespace Bundle

def edges : Bundle -> List (Option Value × Record)
 | one r => [(none, r)]
 | many rs => rs.map fun (k, r) => (k, r)

def records : Bundle -> List Record
 | one r => [r]
 | many rs => rs.values

def size (b : Bundle) : Nat := b.records.length

def items : Bundle -> Items
 | one r => r.items
 | many rs => rs.map fun (k, r) => (k, r.items)

def mapRecords (f : Record -> Record) : Bundle -> Bundle
 | one r => one (f r)
 | many rs => many (rs.map fun (k, r) => (k, f r))

end Bundle

structure Graph where
 directed : Bool := false
 multi : Bool := false
 bare : Bool := false
 frozen : Bool := false
 next : Nat := 1
 attrs : Record := ⟨0, []⟩
 nodes : Table Record := []
 succ : Table (Table Bundle) := []
 pred : Table (Table Bundle) := []
 sides : Option (Table Bool) := none

structure Edge where
 (src dst : Value)
 key : Option Value := none
 items : Items := []

namespace Edge

variable (e : Edge)

def value (keys data : Bool) : Value :=
 .tuple ([e.src, e.dst] ++ (if keys then e.key.toList else []) ++ if data then [.dict e.items] else [])

def ends : Value := .tuple [e.src, e.dst]

def get (name dflt : Value) : Value := e.items.getD name dflt

end Edge

namespace Graph

variable (g : Graph) (n : Value) (u v : Value) (ns : Vals) (row : Table Bundle)

def new (directed multi : Bool) : Graph := { directed, multi }

def emptyLike : Graph := { directed := g.directed, multi := g.multi, bare := g.bare }

def className : String := (if g.multi then "Multi" else "") ++ if g.directed then "DiGraph" else "Graph"

def order : Nat := g.nodes.length

def verts : Vals := g.nodes.keys

def hasNode : Bool := g.nodes.has n

def nodeItems : Items := (g.nodes.get? n).elim [] (·.items)

def adj : Table Bundle := g.succ.getD n []

def coadj : Table Bundle := if g.directed then g.pred.getD n [] else g.adj n

def nbrs : Vals := (g.adj n).keys

def conbrs : Vals := (g.coadj n).keys

def bundle? : Option Bundle := (g.adj u).get? v

def hasEdge : Bool := (g.adj u).has v

def data : Items := (g.bundle? u v).elim [] (·.items)

def name (g : Graph) : Value := g.attrs.items.getD "name" ""

def setAttr (k v : Value) : Graph := { g with attrs := { g.attrs with items := g.attrs.items.put k v } }

def setName (s : String) : Graph := g.setAttr "name" s

/-! ## Changes -/

def addNode (items : Items := []) : Graph :=
 if g.nodes.has n then
  { g with nodes := g.nodes.map fun (k, r) => if k == n then (k, { r with items := r.items.merge items }) else (k, r) }
 else
  { g with
   next := g.next + 1
   nodes := g.nodes ++ [(n, ⟨g.next, .ofList items⟩)]
   succ := g.succ.put n []
   pred := if g.directed then g.pred.put n [] else g.pred }

def ensure : Graph := if g.nodes.has n then g else g.addNode n

def addNodes : Graph := ns.foldl ensure g

def putBundle (b : Bundle) : Graph :=
 if g.directed then
  { g with
   succ := g.succ.change u [] (·.put v b)
   pred := g.pred.change v [] (·.put u b) }
 else { g with succ := (g.succ.change u [] (·.put v b)).change v [] (·.put u b) }

def freeKey (rs : Table Record) : Value :=
 let n := rs.length
 (((List.range (n + 1)).map fun i => .nat (n + i)).find? (!rs.has ·)).getD n

def recordFor (r : Option Record) (items : Items) : Record :=
 if let some r := r then { r with items := r.items.merge items } else ⟨g.next, .ofList items⟩

def addEdge (items : Items := []) (key : Option Value := none) : Graph :=
 let g := (g.ensure u).ensure v
 if g.multi then
  let rs := if let some (.many rs) := g.bundle? u v then rs else []
  let k := key.getD (freeKey rs)
  let r := g.recordFor (rs.get? k) items
  { g.putBundle u v (.many (rs.put k r)) with next := g.next + 1 }
 else
  let old := if let some (.one r) := g.bundle? u v then some r else none
  { g.putBundle u v (.one (g.recordFor old items)) with next := g.next + 1 }

def addEdges (es : Pairs) : Graph := es.foldl (fun g (u, v) => g.addEdge u v) g

def unlink : Graph :=
 if g.directed then
  { g with
   succ := g.succ.map fun (k, t) => if k == u then (k, t.erase v) else (k, t)
   pred := g.pred.map fun (k, t) => if k == v then (k, t.erase u) else (k, t) }
 else
  { g with
   succ := g.succ.map fun (k, t) => if k == u then (k, t.erase v) else if k == v then (k, t.erase u) else (k, t) }

def unlinkKey (key : Option Value) : Graph :=
 match g.bundle? u v with
 | some (.many rs) =>
  let rs' := key.elim rs.dropLast rs.erase
  if rs'.isEmpty then g.unlink u v else g.putBundle u v (.many rs')
 | some (.one _) => g.unlink u v
 | none => g

def removeEdge : Graph := if g.multi then g.unlinkKey u v none else g.unlink u v

def removeNode : Graph :=
 let cut t : Table (Table Bundle) := t.filterMap fun (k, row) => if k == n then none else (k, row.erase n)
 { g with nodes := g.nodes.erase n, succ := cut g.succ, pred := cut g.pred }

def removeNodes : Graph := ns.foldl removeNode g

def clear : Graph := { g with attrs := { g.attrs with items := [] }, nodes := [], succ := [], pred := [] }

def setNodeAttr (n k v : Value) : Graph := g.addNode n [(k, v)]

def changeEdge (f : Record -> Record) : Graph := (g.bundle? u v).elim g fun b => g.putBundle u v (b.mapRecords f)

def setEdgeAttr (u v k x : Value) : Graph := g.changeEdge u v fun r => { r with items := r.items.put k x }

/-! ## Edges -/

def rowEdges : List Edge := row.flatMap fun (nbr, b) => b.edges.map fun (k, r) => ⟨n, nbr, k, r.items⟩

def edgesOf : List Edge :=
 if g.directed then ns.flatMap fun n => rowEdges n (g.adj n)
 else
  (ns.foldl (fun acc n =>
   (acc.1 ++ rowEdges n ((g.adj n).filter (!acc.2.contains ·.1)), n :: acc.2)) ([], [])).1

def edges : List Edge := g.edgesOf g.succ.keys

def inEdgesOf : List Edge :=
 ns.flatMap fun n => (rowEdges n (g.coadj n)).map fun e => { e with src := e.dst, dst := e.src }

/-! ## Degrees -/

def rowSize : Nat := Total.ofNats (row.map (·.2.size))

def outDegree : Nat := rowSize (g.adj n)

def inDegree : Nat := rowSize (g.coadj n)

def degree : Nat :=
 if g.directed then g.outDegree n + g.inDegree n
 else g.outDegree n + (g.bundle? n n).elim 0 (·.size)

section

variable (weight n : Value)

def bundleWeight (b : Bundle) (weight : Value) : Res (List Num) := b.records.mapM fun r => (r.items.getD weight 1).num

def rowWeight : Res Num := return .sum (<- row.mapM (bundleWeight ·.2 weight)).flatten

def outWeight : Res Num := rowWeight (g.adj n) weight

def inWeight : Res Num := rowWeight (g.coadj n) weight

def weightAt : Res Num := do
 if g.directed then
  let s <- g.outWeight weight n
  let p <- g.inWeight weight n
  return if g.multi then p + s else s + p
 else
  let s <- g.outWeight weight n
  let some b := g.bundle? n n | return s
  return s + .sum (<- bundleWeight b weight)

end

def size : Nat := Total.ofNats (g.succ.keys.map g.degree) / 2

/-! ## Other graphs -/

def subgraph : Graph :=
 let ns := uniq (ns.filter g.succ.has)
 let h := { g.emptyLike with
  attrs := g.attrs
  nodes := ns.filterMap fun n => (g.nodes.get? n).map fun r => (n, r) }
 if g.directed then
  let h := { h with succ := ns.map (·, []), pred := ns.map fun n => (n, []) }
  ns.foldl (fun h u => (g.adj u).foldl (fun h (v, b) => if ns.contains v then h.putBundle u v b else h) h) h
 else
  ns.foldl (fun h u =>
   let h := { h with succ := h.succ ++ [(u, [])] }
   (g.adj u).foldl (fun h (v, b) => if h.succ.has v then h.putBundle u v b else h) h) h

def mapRecords (g : Graph) (f : Record -> Record) : Graph :=
 let rows t : Table (Table Bundle) := t.map fun (k, row) => (k, row.map fun (l, b) => (l, b.mapRecords f))
 { g with
  attrs := f g.attrs
  nodes := g.nodes.map fun (k, r) => (k, f r)
  succ := rows g.succ
  pred := rows g.pred }

def records (g : Graph) : List Record := g.attrs :: g.nodes.values ++ g.succ.flatMap fun p => p.2.flatMap (·.2.records)

def copy : Graph :=
 let tags := (g.records.map (·.tag)).eraseDups
 { g.mapRecords fun r => { r with tag := (tags.idxOf? r.tag).getD 0 } with next := tags.length + 1 }

def withNodesOf (h g : Graph) : Graph :=
 let h := g.nodes.foldl (fun h (n, r) => h.addNode n r.items) h
 { h with attrs := { h.attrs with items := g.attrs.items } }

def addAll (h : Graph) (es : List Edge) : Graph :=
 es.foldl (fun h e => h.addEdge e.src e.dst e.items (if h.multi then e.key else none)) h

def toDirected : Graph :=
 if g.directed then g.copy
 else ((new true g.multi).withNodesOf g).addAll (g.succ.flatMap fun (n, row) => rowEdges n row)

def toUndirected (reciprocal : Bool := false) : Graph :=
 if !g.directed then g.copy
 else
  let es := g.edges.filter fun e =>
   !reciprocal || if let some k := e.key then (g.bundle? e.dst e.src).any (·.items.has k)
    else g.hasEdge e.dst e.src
  (({ new false g.multi with bare := g.bare } : Graph).withNodesOf g).addAll es

def reverse : Graph :=
 (g.emptyLike.withNodesOf g).addAll (g.edges.map fun e => { e with src := e.dst, dst := e.src })

def flip : Graph := { g with succ := g.pred, pred := g.succ }

end Graph

end DexLens.Network
