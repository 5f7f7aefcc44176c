import DexLens.Network.Generate.Growth

/-! # Graphs with two sides, and graphs made from them -/

namespace DexLens.Network.Generate

open Draw Value

variable (a : Args) (g : Graph) (n m : Int)

def sided : Graph :=
 let side s g v := g.setNodeAttr v "bipartite" s
 let g := g.addNodes ((range 0 (n + m)).map .int)
 (range n (n + m)).foldl (side 1) ((range 0 n).foldl (side 0) g)

def twoSidedStart (seed : Value) : Work (Value × Vals × Vals × Bool) := do
 noArcs (a 2)
 let ref <- empty 0 (a 2) (.new false true)
 sow seed
 let n <- size (a 0)
 let m <- size (a 1)
 let as <- a.items 0
 let bs <- a.items 1
 let (s, t) := (<- sumOf as, <- sumOf bs)
 if !s == t then fail s!"invalid degree sequences, sum(aseq)!=sum(bseq),{s.value.shown},{t.value.shown}"
 alter ref (sided · n m)
 return (ref, as, bs, !(<- greatest as).same 0)

def twoSidedPairs : Work Value := do
 let (ref, as, bs, some_) <- twoSidedStart a (a 3)
 if !some_ then return ref
 let us <- stubsOf as
 let vs <- stubsOf bs as.length
 let us <- draw (shuffle us)
 let vs <- draw (shuffle vs)
 let total := (<- (<- sumOf as).value.asInt).toNat
 if us.length < total || vs.length < total then throw .beyond
 altered ref fun g => (g.addEdges ((us.zip vs).take total)).setName "bipartite_configuration_model"

abbrev Need := Int × Int

section

variable (bs ns xs : List Need) (i : Int)

def Need.before (a b : Need) : Bool := a.1 < b.1 || a.1 = b.1 && a.2 ≤ b.2

def sortNeeds : List Need := ns.mergeSort Need.before

def fromPosition : List Need := if i < 0 then xs.drop (xs.length - (-i).toNat) else xs.drop i.toNat

def upTo : List Need := if i < 0 then xs.take (xs.length - (-i).toNat) else xs.take i.toNat

abbrev Choice := List Need -> Int -> List Int

def joinTo (dsts : List Int) : List Need :=
 dsts.foldl (fun bs v =>
  bs.filterMap fun n => if n.2 = v then (if n.1 = 1 then none else some (n.1 - 1, v)) else some n) bs

end

def twoSidedGreedy (name : String) (choose : Choice) (a : Args) : Work Value := do
 let (ref, as, bs, some_) <- twoSidedStart a .null
 if !some_ then return ref
 let ds <- as.mapM (·.asInt)
 let es <- bs.mapM (·.asInt)
 let needs (xs : List Int) first := sortNeeds (xs.zipIdx.map fun (d, i) => (d, (first + i : Int)))
 let (g, _, _) := (needs ds 0).reverse.foldl (fun acc (d, u) =>
  let (g, bs, done) := acc
  if done || d = 0 then (g, bs, true)
  else
   let dsts := choose bs d
   (g.addEdges (dsts.map fun v => pair (u, v)), joinTo bs dsts, false)) (<- .graph ref, needs es as.length, false)
 update ref (g.setName name)
 return ref

def mostNeeded : Choice := fun bs d => (fromPosition (sortNeeds bs) (-d)).map (·.2)

def leastNeeded : Choice := fun bs d => (upTo bs d).map (·.2)

def byTurns : Choice := fun bs d =>
 let bs := sortNeeds bs
 let half := Int.fdiv d 2
 let small := upTo bs half
 let large := fromPosition bs (-d + half)
 let both := (large.zip small).flatMap fun (x, y) => [x.2, y.2]
 if both.length < small.length + large.length then both ++ (large.getLast?.map (·.2)).toList else both

def twoSidedGrowth : Work Value := do
 noArcs (a 2)
 let p <- a.num 1
 if Num.lt 1 p then fail s!"probability {(a 1).shown} > 1"
 let ref <- empty 0 (a 2) (.new false true)
 sow (a 3)
 let n <- size (a 0)
 alter ref (sided · n 0)
 let srcs <- stubsOf (<- a.items 0)
 grown ref fun g => do
  let g <- srcs.foldlM (fun g s => do
   let t <- if (<- chance p) || g.order = n then pure (nat g.order)
    else choice ((range n g.order).flatMap fun b => .replicate (g.degree b) (int b))
   return (g.setNodeAttr t "bipartite" 1).addEdge s t) g
  return g.setName "bipartite_preferential_attachment_model"

def sidedPairs (lp : Float) : Draw (List (Int × Int)) :=
 return (<- skipping n (fun _ => m) false lp (n.toNat * m.toNat) 0).map fun (v, w) => (v, n + w)

def twoSidedRandom (n m p seed : Value) (directed : Bool) : Work Graph := do
 let (a, b) := (<- n.asInt, <- m.asInt)
 let g := (sided (.new directed false) a b).setName (called "fast_gnp_random_graph" [n, m, p])
 sow seed
 let x <- p.num
 if x.le 0 then return g
 if Num.le 1 x then return <- .graph (<- completeBipartite a b .null)
 let lp := .log (1.0 - x.toFloat)
 let g := g.addEdges ((<- draw (sidedPairs a b lp)).map pair)
 if directed then return g.addEdges ((<- draw (sidedPairs a b lp)).map fun (u, v) => pair (v, u))
 return g

def twoSidedCounted : Work Value := do
 let (n, m) := (<- a.int 0, <- a.int 1)
 let directed := a.truth 4
 let g := (sided (.new directed false) n m).setName (called "bipartite_gnm_random_graph" [a 0, a 1, a 2])
 sow (a 3)
 if n = 1 || m = 1 then return <- keep g
 let k <- a.num 2
 if Num.le (.int (n * m)) k then return <- completeBipartite n m (<- keep g)
 keep (<- draw (addRandomEdges g ((range 0 n).map .int) ((range n (n + m)).map .int) k))

def overlaps (n : Int) : Work Value := do
 Bipartite.projected { values := [<- keep g, .list ((range 0 n).map .int), false] }

def withTriangles : Work Value := do
 noArcs (a 1)
 sow (a 2)
 let ds <- a.items 0
 let ref <- empty ds.length (a 1) (.new false true)
 let ends i : Res Vals := do
  let rows <- ds.zipIdx.mapM fun (d, v) => return .replicate (<- (<- d.nth i).asInt).toNat (nat v)
  return rows.flatten
 let singles <- ends 0
 let corners <- ends 1
 if singles.length % 2 != 0 || corners.length % 3 != 0 then fail "Invalid degree sequence"
 let singles <- draw (shuffle singles)
 let corners <- draw (shuffle corners)
 let rec triangles : Vals -> Pairs
  | x :: y :: z :: rest => (x, y) :: (x, z) :: (y, z) :: triangles rest
  | _ => []
 altered ref fun g =>
  let g := (g.addEdges (couples singles.reverse)).addEdges (triangles corners.reverse)
  g.setName s!"random_clustered {g.order} nodes {g.size} edges"

def twoSidedCommands : List Cmd := [
 ⟨"bipartite_configuration_model", "aseq bseq create_using? seed?", twoSidedPairs⟩,
 ⟨"bipartite_havel_hakimi_graph", "aseq bseq create_using?", twoSidedGreedy "bipartite_havel_hakimi_graph" mostNeeded⟩,
 ⟨"bipartite_reverse_havel_hakimi_graph", "aseq bseq create_using?",
  twoSidedGreedy "bipartite_reverse_havel_hakimi_graph" leastNeeded⟩,
 ⟨"bipartite_alternating_havel_hakimi_graph", "aseq bseq create_using?",
  twoSidedGreedy "bipartite_alternating_havel_hakimi_graph" byTurns⟩,
 ⟨"bipartite_preferential_attachment_graph", "aseq p create_using? seed?", twoSidedGrowth⟩,
 ⟨"bipartite_random_graph", "n m p seed? directed=False", twoSidedRandom⟩,
 ⟨"bipartite_gnmk_random_graph", "n m k seed? directed=False", twoSidedCounted⟩,
 ⟨"uniform_random_intersection_graph", "n m p seed?", fun a => do
  overlaps (<- twoSidedRandom (a 0) (a 1) (a 2) (a 3) false) (<- a.int 0)⟩,
 ⟨"k_random_intersection_graph", "n m k", fun a => do
  let (n, m, k) := (<- a.int 0, <- a.int 1, <- a.int 2)
  let g := numbered (n + m) false s!"empty_graph({n + m})" []
  let g <- draw ((range 0 n).foldlM (fun g v =>
   return g.addEdges ((<- sample (range n (n + m)) k).map fun t => pair (v, t))) g)
  overlaps g n⟩,
 ⟨"general_random_intersection_graph", "n m p", fun a => do
  let k <- size (a 2)
  if !(nat k).same (a 1) then throw .badVal
  let (n, m) := (<- a.int 0, <- a.int 1)
  let g := numbered (n + m) false s!"empty_graph({n + m})" []
  let qs <- a.items 2
  let g <- draw ((range 0 n).foldlM (fun g u =>
   ((range n (n + m)).zip qs).foldlM (fun g (v, q) => return if <- chance (<- q.num) then g.addEdge u v else g) g) g)
  overlaps g n⟩,
 ⟨"random_clustered_graph", "joint_degree_sequence create_using? seed?", withTriangles⟩]

end DexLens.Network.Generate
