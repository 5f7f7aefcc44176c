import DexLens.Network.Generate.Random

/-! # Graphs that grow node by node -/

namespace DexLens.Network.Generate

open List Num Reshape Work

variable (a : Args) (l k : Int)

def differentItems (xs : Vals) (m : Nat) : Draw Vals := do
 let mut out := []
 for _ in [0:patience] do
  if m ≤ out.length then return Swap.inOrder out
  out := including out (<- choice xs)
 throw .endless

def grown (ref : Value) (f : Graph -> Draw Graph) : Work Value := do
 update ref (<- draw (f (<- graph ref)))
 return ref

def wholePart (v : Value) : Res Int := do
 match <- v.num with
 | .int i => return i
 | .float x => truncated x

def preferential : Work Graph := do
 let m <- a.num 1
 if m.lt 1 || le (<- a.num 0) m then
  fail ("Barabási-Albert network must have m>=1 and m<n, m=" ++ toString (<- wholePart (a 1)) ++ ",n=" ++
   toString (<- wholePart (a 0)))
 sow (a 2)
 let n <- a.num 0
 let m <- a.int 1
 let last := match n with
  | .int n => n
  | .float x => (truncate? x.ceil).getD 0
 let start := numbered m false (called "barabasi_albert_graph" [a 0, a 1]) []
 let first := (range 0 m).map .int
 let (g, _, _) <- draw ((range m last).foldlM (fun acc s => do
  let (g, dsts, seen) := acc
  let g := g.addEdges (dsts.map (.int s, ·))
  let seen := seen ++ dsts ++ replicate m.toNat (.int s)
  return (g, <- differentItems seen m.toNat, seen)) (start, first, []))
 return g

def attach (g : Graph) (s : Value) (p : Num) (m : Nat) (dsts : Vals) : Draw (Graph × Vals) := do
 let t :: rest := dsts | throw .noKey
 let mut g := g.addEdge s t
 let mut dst := t
 let mut left := rest
 let mut chosen := [t]
 for _ in [1:m] do
  let near <- if <- chance p then
   pure ((g.nbrs dst).filter fun n => !g.hasEdge s n && !n.same s)
   else pure []
  if near.isEmpty then
   let t :: rest := left | throw .noKey
   dst := t
   left := rest
   g := g.addEdge s t
   chosen := chosen ++ [t]
  else
   let n <- choice near
   g := g.addEdge s n
   chosen := chosen ++ [n]
 return (g, chosen)

def clustered : Work Graph := do
 let n <- a.num 0
 let m <- a.num 1
 let p <- a.num 2
 if m.lt 1 || n.lt m then
  fail ("NetworkXError must have m>1 and m<n, m=" ++ toString (<- wholePart (a 1)) ++ ",n=" ++
   toString (<- wholePart (a 0)))
 if lt 1 p || p.lt 0 then fail ("NetworkXError p must be in [0,1], p=" ++ Decimal.fixed 6 p.toFloat)
 sow (a 3)
 let m <- a.int 1
 let last <- a.int 0
 let start := numbered m false "Powerlaw-Cluster Graph" []
 let (g, _) <- draw ((range m last).foldlM (fun acc s => do
  let dsts <- differentItems acc.2 m.toNat
  let (g, chosen) <- attach acc.1 (.int s) p m.toNat dsts
  return (g, acc.2 ++ chosen ++ replicate m.toNat (.int s))) (start, start.verts))
 return g

/-! ## Directed growth -/

def seedling (base seed : Value) (name : String) : Work Value := do
 if !base.isNull then if !(<- isDirected base) then fail "Directed Graph required in create_using"
 sow seed
 altered (<- empty 1 base (.new true false)) (·.setName name)

def drawPosition (weights : List Num) : Draw Nat := do
 let cdf <- Sequence.cumulative weights
 let [i] <- Sequence.discrete 1 cdf | throw .beyond
 return i.toNat

def growing : Work Value := do
 let ref <- seedling (a 2) (a 3) (called "gn_graph" [a 0])
 if (a 0).same 1 then return ref
 alter ref (·.addEdge 1 0)
 let n <- a.int 0
 let lab <- get
 let kernel (d : Value) : Res Num := do if a.isNull 1 then d.num else (<- lab.apply (a 1) [d]).num
 grown ref fun g => do
  let (g, _) <- (range 2 n).foldlM (fun (acc : Graph × List Int) s => do
   let t <- drawPosition (<- acc.2.mapM fun d => kernel (.int d))
   let ds := acc.2 ++ [1]
   if ds.length ≤ t then throw .beyond
   return (acc.1.addEdge (.int s) (.nat t), ds.modify t (· + 1))) (g, [1, 1])
  return g

def redirected : Work Value := do
 let ref <- seedling (a 2) (a 3) (called "gnr_graph" [a 0, a 1])
 if (a 0).same 1 then return ref
 let n <- a.int 0
 let p <- a.num 1
 grown ref ((range 1 n).foldlM fun g s => do
  let t <- .range 0 s
  if lt (<- random) p && t != 0 then
   let u :: _ := g.nbrs t | throw .beyond
   return g.addEdge s u
  else return g.addEdge s t)

def copying : Work Value := do
 let ref <- seedling (a 1) (a 2) (called "gnc_graph" [a 0])
 if (a 0).same 1 then return ref
 let n <- a.int 0
 grown ref fun g => (range 1 n).foldlM (fun g s => do
  let t := .int (<- .range 0 s)
  return g.addEdges ((g.nbrs t ++ [t]).map (s, ·))) g

def byDegree (degrees : Table Nat) (share : Num) : Draw Nat := do
 let total := ofInt (Total.ofNats (degrees.map (·.2))) + share.toFloat * ofInt degrees.length
 let r <- random
 let mut sum := 0.0
 for i in [0:degrees.length] do
  sum := sum + (<- div (.int (<- degrees.get i) + share) total).toFloat
  if r < sum then return i
 if degrees.isEmpty then throw .unbound
 return degrees.length - 1

def scaleFree : Work Value := do
 let base := a 6
 let ref <- if base.isNull then keep ((Graph.new true true).addEdges [(0, 1), (1, 2), (2, 0)]) else do
  let g <- graph base
  if !(g.directed && g.multi) then fail "MultiDiGraph required in create_using"
  pure base
 let alpha <- a.num 1
 let beta <- a.num 2
 let gamma <- a.num 3
 if alpha.le 0 || beta.le 0 || gamma.le 0 then throw .badVal
 if !alpha + beta + gamma == .float 1.0 then throw .badVal
 let shareIn <- a.num 4
 let shareOut <- a.num 5
 let text i := (a i).shown
 alter ref (·.setName (s!"directed_scale_free_graph({text 0},alpha={text 1},beta={text 2},gamma=" ++
  s!"{text 3},delta_in={text 4},delta_out={text 5})"))
 reseed (a 7)
 let n <- a.num 0
 reshape ref do
  for _ in [0:patience] do
   let g <- graph
   if !lt (.int g.order) n then return
   let fresh := .nat g.order
   let r <- Reshape.draw random
   let pickIn := return <- byDegree (g.nodes.map fun p => (p.1, g.inDegree p.1)) shareIn
   let pickOut := return <- byDegree (g.nodes.map fun p => (p.1, g.outDegree p.1)) shareOut
   if lt r alpha then change (·.addEdge fresh (<- Reshape.draw pickIn))
   else if lt r (alpha + beta) then change (·.addEdge (<- Reshape.draw pickOut) (<- Reshape.draw pickIn))
   else change (·.addEdge (<- Reshape.draw pickOut) fresh)
  throw .endless
 return ref

def growthCommands : List Cmd := [
 .kept "barabasi_albert_graph" "n m seed?" preferential,
 .kept "powerlaw_cluster_graph" "n m p seed?" clustered,
 ⟨"gn_graph", "n kernel? create_using? seed?", growing⟩,
 ⟨"gnr_graph", "n p create_using? seed?", redirected⟩,
 ⟨"gnc_graph", "n create_using? seed?", copying⟩,
 ⟨"scale_free_graph", "n alpha=0.41 beta=0.54 gamma=0.05 delta_in=0.2 delta_out=0 create_using? seed?", scaleFree⟩]

/-! # Graphs made of groups -/

def starts : Res (List Int) :=
 if k = 0 then .error .badVal
 else
  let n := l * k
  .ok ((List.range n.natAbs).filterMap fun i : Nat =>
   let s := i * k
   if 0 < k && s < n || k < 0 && n < s then s else none)

def caves (name : String) : Res Graph := do
 let edges <- if 1 < k then do
  pure ((<- starts l k).flatMap fun s => (allPairs k false).map fun (u, v) => (u + s, v + s))
  else pure []
 return numbered (l * k) false name edges

def connectedCaves : Res Graph := do
 let g <- caves l k s!"connected_caveman_graph({l},{k})"
 (<- starts l k).foldlM (fun g s => do
  let (u, v) := (.int s, Value.int (s + 1))
  if !g.hasEdge u v then fail s!"The edge {u.shown}-{v.shown} is not in the graph"
  return (g.removeEdge u v).addEdge u (.int (.fmod (s - 1) (l * k)))) g

def relaxedCaves (a : Args) : Work Graph := do
 sow (a 3)
 let p <- a.num 2
 let name := "relaxed_caveman_graph (" ++ ",".intercalate ([0, 1, 2].map fun i => (a i).shown) ++ ")"
 let g <- caves (<- a.int 0) (<- a.int 1) name
 draw (g.edges.foldlM (fun g e => do
  if <- chance p then
   let x <- choice g.verts
   if g.hasEdge e.src x then return g
   return (g.removeEdge e.src e.dst).addEdge e.src x
  else return g) g)

def groupEnds (sizes : List Int) : List (Int × Int) :=
 (sizes.foldl (fun acc k =>
  let stop := acc.2 + k
  (acc.1 ++ (range acc.2 stop).map (·, stop), stop)) ([], 0)).1

def edgesBetween (n : Int) (stops : List (Int × Int)) (lp : Float) (directed : Bool) : Draw (List (Int × Int)) := do
 let mut out := #[]
 for u in range 0 (if directed then n else n - 1) do
  let own <- opt .noKey (stops.lookup u)
  let mut v := if directed then 0 else own
  for _ in [0:n.toNat + 1] do
   if n ≤ v then break
   v := v + (<- gap lp)
   if directed && (stops.lookup v).getD n = own then v := own
   if v < n then
    out := out.push (u, v)
    v := v + 1
 return out.toList

def partitioned (sizes pIn pOut seed directed : Value) : Work Graph := do
 sow seed
 let inside <- pIn.num
 let outside <- pOut.num
 let isShare x : Bool := le 0 x && x.le 1
 if !isShare inside then fail "p_in must be in [0,1]"
 if !isShare outside then fail "p_out must be in [0,1]"
 let directed := directed.truth
 let ks <- (<- items sizes).mapM (·.asInt)
 let n := Total.ofInts ks
 let start := (Graph.new directed false).addNodes ((range 0 n).map .int)
 let (g, groups, _) <- ks.foldlM (fun (acc : Graph × Vals × Int) k => do
  let h <- fastGnp (.int k) pIn .null directed
  let edges <- h.edges.mapM fun e => do return pair ((<- e.src.asInt) + acc.2.2, (<- e.dst.asInt) + acc.2.2)
  let group := Value.set ((range acc.2.2 (acc.2.2 + k)).map .int)
  return (acc.1.addEdges edges, acc.2.1 ++ [group], acc.2.2 + k)) (start, [], 0)
 let g := g.setAttr "partition" groups
 if outside.isZero then return g
 let stops := groupEnds ks
 if outside == 1 then
  return stops.foldl (fun g (v, stop) =>
   let dsts := range stop n
   let g := g.addEdges (dsts.map fun t => pair (v, t))
   if directed then g.addEdges (dsts.map fun t => pair (t, v)) else g) g
 let lp := .log (1.0 - outside.toFloat)
 return g.addEdges ((<- draw (edgesBetween n stops lp directed)).map pair)

def gaussianSizes (n mean shape : Num) : Draw Vals := do
 let deviation := (<- div mean.toFloat shape).toFloat + 0.5
 let mut sizes := []
 let mut assigned := 0
 for _ in [0:patience] do
  let size := (truncate? (<- .normal mean.toFloat deviation)).getD 0
  if 1 ≤ size then
   if n.le (.int (assigned + size)) then return sizes ++ [(n - assigned).value]
   assigned := assigned + size
   sizes := sizes ++ [.int size]
 throw .endless

def communityCommands : List Cmd := [
 ⟨"caveman_graph", "l k", fun a => do
  let (l, k) := (<- a.int 0, <- a.int 1)
  keep (<- caves l k s!"caveman_graph({l * k},{k})")⟩,
 ⟨"connected_caveman_graph", "l k", connectedCaves⟩,
 .kept "relaxed_caveman_graph" "l k p seed? directed=False" relaxedCaves,
 ⟨"random_partition_graph", "sizes p_in p_out seed? directed=False", partitioned⟩,
 ⟨"planted_partition_graph", "l k p_in p_out seed? directed=False", fun a => do
  let sizes := Value.list (replicate (<- a.int 0).toNat (a 1))
  keep (<- partitioned sizes (a 2) (a 3) (a 4) (a 5))⟩,
 ⟨"gaussian_random_partition_graph", "n s v p_in p_out directed=False seed?", fun a => do
  let (n, mean) := (<- a.num 0, <- a.num 1)
  if n.lt mean then fail "s must be <= n"
  let sizes <- draw (gaussianSizes n mean (<- a.num 2))
  -- The direction stands for the seed here, and the seed for the direction.
  keep (<- partitioned sizes (a 3) (a 4) (a 5) (a 6))⟩]

end DexLens.Network.Generate
