import DexLens.Network.Blocks

/-! # Matching two graphs node by node

A match grows from a node to a node next to it; the frontier tells early when it cannot grow any further.
-/

namespace DexLens.Network.Isomorphism

open Graph

variable (name : String) (g : Graph)

/-- Which node goes to which, and the frontiers on both sides. -/
structure State where
 core1 : Table Value := []
 core2 : Table Value := []
 frontiers : List (Vals × Vals) := []

structure Search where
 (g1 g2 : Graph)
 directed : Bool
 whole : Bool := true
 /-- Do the attributes of two nodes, and of their edges to nodes that are placed, fit? -/
 fits : Value -> Value -> Table Value -> Res Bool

namespace Search

variable (s : Search) (st : State) (n m : Value)

def views : List (Graph -> Value -> Vals) := if s.directed then [nbrs, conbrs] else [nbrs]

def start : State := { frontiers := s.views.map fun _ => ([], []) }

def place : State :=
 let core1 := st.core1 ++ [(n, m)]
 let core2 := st.core2 ++ [(m, n)]
 let grow g (view : Graph -> Value -> Vals) (core : Table Value) old v :
  Vals :=
  (v :: core.keys.flatMap fun u => (view g u).filter (!core.has ·)).foldl including old
 { core1, core2
   frontiers := (st.frontiers.zip s.views).map fun ((f1, f2), view) =>
    (grow s.g1 view core1 f1 n, grow s.g2 view core2 f2 m) }

def candidates : Res Pairs := do
 let open1 (f : Vals) : Vals := (Swap.inOrder s.g1.verts).filter fun n => f.contains n && !st.core1.has n
 let open2 (f : Vals) : Vals := s.g2.verts.filter fun n => f.contains n && !st.core2.has n
 let near := st.frontiers.find? fun (f1, f2) => !(open1 f1).isEmpty && !(open2 f2).isEmpty
 if let some (f1, f2) := near then
  let m <- Value.least (open2 f2)
  return (open1 f1).map (·, m)
 else
  let m <- Value.least (s.g2.verts.filter (!st.core2.has ·))
  let ns := if s.directed then Swap.inOrder s.g1.verts else s.g1.verts
  return (ns.filter (!st.core1.has ·)).map (·, m)

def count (u v : Value) : Nat := ((g.bundle? u v).map (·.size)).getD 0

def edgesAgree : Bool :=
 let inward g u v := count g v u
 let ways := if s.directed then [(nbrs, count), (conbrs, inward)] else [(nbrs, inward)]
 count s.g1 n n == count s.g2 m m &&
  ways.all fun (view, between) =>
   ((view s.g1 n).all fun u =>
    (st.core1.get? u).all fun v => (view s.g2 m).contains v && between s.g1 n u == between s.g2 m v) &&
   (view s.g2 m).all fun v =>
    (st.core2.get? v).all fun u => (view s.g1 n).contains u && between s.g1 n u == between s.g2 m v

def frontiersAgree : Bool :=
 let agree a b := if s.whole then a == b else a ≥ b
 s.views.all fun view =>
  let ns := view s.g1 n
  let ms := view s.g2 m
  (st.frontiers.all fun (f1, f2) =>
   agree (ns.filter fun u => f1.contains u && !st.core1.has u).length
    (ms.filter fun v => f2.contains v && !st.core2.has v).length) &&
  agree (ns.filter fun u => st.frontiers.all (!·.1.contains u)).length
   (ms.filter fun v => st.frontiers.all (!·.2.contains v)).length

def complete (s : Search) (first : Bool) : Nat -> State -> Res (List (Table Value))
 | 0, st => .ok (if st.core1.length = s.g2.order then [st.core1] else [])
 | depth + 1, st => do
  if st.core1.length = s.g2.order then return [st.core1]
  (<- s.candidates st).foldlM (fun found (n, m) => do
   if first && !found.isEmpty then return found
   if s.edgesAgree st n m && s.frontiersAgree st n m then
    if <- s.fits n m st.core1 then return found ++ (<- s.complete first depth (s.place st n m))
   return found) []

def run (first : Bool) : Res (List (Table Value)) := s.complete first (s.g2.order + 1) s.start

end Search

def fitting (lab : Lab) (g1 g2 : Graph) (directed : Bool) (onNodes onEdges n m : Value)
 (core : Table Value) : Res Bool := do
 let nodesFit <- if onNodes.isNull then pure true else do
  pure (<- lab.apply onNodes [.dict (g1.nodeItems n), .dict (g2.nodeItems m)]).truth
 if !nodesFit then return false
 if onEdges.isNull then return true
 let along (a1 a2 : Table Bundle) :=
  a1.foldlM (fun ok (u, b) => do
   if !ok then return false
   let other := if u == n then some m else core.get? u
   let some v := other | return true
   return (<- lab.apply onEdges [b.items, (<- a2.get v).items]).truth) true
 if !(<- along (g1.adj n) (g2.adj m)) then return false
 if directed then along (g1.coadj n) (g2.coadj m) else return true

def search (g1 g2 : Graph) (directed whole : Bool) (onNodes onEdges : Value) : Work Search :=
 return { g1, g2, directed, whole, fits := fitting (<- get) g1 g2 directed onNodes onEdges }

def degrees : List Nat := (g.verts.map g.degree).mergeSort

def isIsomorphic (s : Search) : Res Bool := do
 if s.g1.order != s.g2.order || degrees s.g1 != degrees s.g2 then return false
 if s.directed && !(s.g1.directed && s.g2.directed) then .error .noPart
 return !(<- s.run true).isEmpty

def similar (f : Graph -> Work (List (List Nat))) (a : Args) : Work Value := do
 let g <- a.graph
 let h <- a.graph 1
 if g.order != h.order then return false
 let sort xs := xs.mergeSort (compare · · != .gt)
 return sort (<- f g) == sort (<- f h)

def triangleCounts : Work (List Nat) := do
 if g.directed then fail "triangles() is not defined for directed graphs."
 g.noMultigraph
 return g.succ.keys.map fun v => (g.triangleCount v).2 / 2

def ask (parts : Parts) (directed : Bool) (method : String) : Work Value := do
 let part n := (parts.lookup n).getD .null
 let s <- search (<- .graph (part "G1")) (<- .graph (part "G2")) directed true (part "node_match") (part "edge_match")
 let list ms := .list (ms.map .dict)
 if method = "is_isomorphic" then return <- isIsomorphic s
 if directed && !(s.g1.directed && s.g2.directed) then throw .noPart
 if method = "subgraph_is_isomorphic" then return !(<- { s with whole := false }.run true).isEmpty
 if method = "subgraph_isomorphisms_iter" then return list (<- { s with whole := false }.run false)
 if method = "isomorphisms_iter" || method = "match" then return list (<- s.run false)
 throw .noPart

def matcher (a : Args) : Work Value := do
 discard (a.graph)
 discard (a.graph 1)
 return .object name [("G1", a 0), ("G2", a 1), ("node_match", a 2), ("edge_match", a 3)]

def matcherCommand : Cmd := ⟨"isomorphism." ++ name, "G1 G2 node_match? edge_match?", matcher name⟩

def likeness (several : Bool) (comparison : Args -> Work Comparison) (a : Args) : Work Value := do
 let l : Likeness := ⟨several, a 0, a 1, <- comparison a⟩
 if !l.single then
  discard l.named
  let (.generic f, false) := (l.comparison, several) | pure ()
  discard f.items
 return l.value

def likenessCommands : List Cmd :=
 [("node", false), ("edge", false), ("multiedge", true)].flatMap fun (what, several) => [
  ⟨"isomorphism.categorical_" ++ what ++ "_match", "attr default", likeness several fun _ => pure .categorical⟩,
  ⟨"isomorphism.numerical_" ++ what ++ "_match", "attr default rtol=1e-05 atol=1e-08",
   likeness several fun a => return .numerical (<- a.num 2) (<- a.num 3)⟩,
  ⟨"isomorphism.generic_" ++ what ++ "_match", "attr default op", likeness several fun a => pure (.generic (a 2))⟩]

def couldBe : List (String × (Args -> Work Value)) := [
 ("could_be_isomorphic", similar fun g => do
  let ts <- triangleCounts g
  let cs <- Cliques.maximal g
  return (g.succ.keys.zip ts).map fun (v, t) => [g.degree v, t, (cs.filter (·.contains v)).length]),
 ("fast_could_be_isomorphic", similar fun g =>
  return (g.succ.keys.zip (<- triangleCounts g)).map fun (v, t) => [g.degree v, t]),
 ("faster_could_be_isomorphic", similar fun g => return (degrees g).map fun d => [d])]

def couldBeCommands : List Cmd := couldBe.flatMap fun (name, check) =>
 let longer := "isomorphism." ++ Text.replace name "could" "graph_could"
 [⟨name, "G1 G2", check⟩, ⟨longer, "G1 G2", check⟩]

def cmds : List Cmd := likenessCommands ++ couldBeCommands ++ [
 ⟨"isomorphism.close", "x y rtol=1e-05 atol=1e-08", fun a =>
  return <- Likeness.close (<- a.num 2) (<- a.num 3) (a 0) (a 1)⟩,
 ⟨"isomorphism.allclose", "x y rtol=1e-05 atol=1e-08", fun a =>
  return <- Likeness.allClose (<- a.num 2) (<- a.num 3) (<- a.items 0) (<- a.items 1)⟩,
 .of "is_isomorphic" "G1 G2 node_match? edge_match?" fun g a => do
  let h <- a.graph 1
  if g.directed != h.directed then fail "Graphs G1 and G2 are not of the same type."
  return <- isIsomorphic (<- search g h g.directed true (a 2) (a 3))] ++ ["GraphMatcher", "DiGraphMatcher", "MultiGraphMatcher", "MultiDiGraphMatcher"].map matcherCommand

end DexLens.Network.Isomorphism
