import DexLens.Network.Collections

/-! # Graphs whose edges are drawn at random -/

namespace DexLens.Network.Generate

variable (a : Args) (n : Int) (p : Float) (directed : Bool) (name : String) (g : Graph)

def patience : Nat := 1000000

def numbered (edges : List (Int × Int)) : Graph :=
 ((Graph.new directed false).setName name |>.addNodes ((range 0 n).map .int)).addEdges (edges.map pair)

def gap (lp : Float) : Draw Int := do
 let lr := .log (1.0 - (<- random))
 if lp == 0 then throw .byZero
 return (truncate? (lr / lp)).getD 0

def chance (p : Num) : Draw Bool := return Num.lt (<- random) p

/-- From a position behind the end of its row to one in a row. -/
def carry (n : Int) (width : Int -> Int) (hollow : Bool) : Nat -> Int -> Int -> Int × Int
 | 0, v, w => (v, w)
 | k + 1, v, w =>
  if width v ≤ w && v < n then
   let (v, w) := (v + 1, w - width v)
   carry n width hollow k v (if hollow && v = w then w + 1 else w)
  else (v, w)

/-- Positions in rows, with gaps drawn between them. A hollow square has no diagonal. -/
def skipping (width : Int -> Int) (hollow : Bool) (lp : Float) (most : Nat) (start : Int) : Draw (List (Int × Int)) := do
 let mut v := start
 let mut w := -1
 let mut out := #[]
 for _ in [0:most + 2] do
  if n ≤ v then break
  w := w + 1 + (<- gap lp)
  if hollow && v = w then w := w + 1
  let (a, b) := carry n width hollow (n.toNat + 1) v w
  v := a
  w := b
  if v < n then out := out.push (v, w)
 return out.toList

def drawnPairs (ps : List (Int × Int)) (p : Float) : Draw (List (Int × Int)) := ps.filterM fun _ =>
 return (<- random) < p

def called (args : Vals) : String := name ++ "(" ++ ",".intercalate (args.map Value.shown) ++ ")"

def gnp (n p seed : Value) (directed : Bool) : Work Graph := do
 let k <- n.asInt
 let name := called "gnp_random_graph" [n, p]
 let x <- p.num
 if x.le 0 then return numbered k directed name []
 if Num.le 1 x then return numbered k directed (called "complete_graph" [n]) (allPairs k directed)
 sow seed
 return numbered k directed name (<- draw (drawnPairs (allPairs k directed) x.toFloat))

def fastGnp (n p seed : Value) (directed : Bool) : Work Graph := do
 let k <- n.asInt
 sow seed
 let x <- p.num
 if x.le 0 || Num.le 1 x then gnp n p .null directed
 else return numbered k directed (called "fast_gnp_random_graph" [n, p]) (<- draw
  (skipping k (if directed then fun _ => k else id) directed (.log (1.0 - x.toFloat)) (k.toNat * k.toNat) 1))

def addRandomEdges (us vs : Vals) (count : Num) : Draw Graph := do
 let mut g := g
 let mut k := 0
 for _ in [0:patience] do
  if !Num.lt (.int k) count then return g
  let u <- choice us
  let v <- choice vs
  if !(u.same v || g.hasEdge u v) then
   g := g.addEdge u v
   k := k + 1
 throw .endless

def gnm (n m seed : Value) (directed : Bool) : Work Graph := do
 let k <- n.asInt
 let g := numbered k directed (called "gnm_random_graph" [n, m]) []
 sow seed
 if k = 1 then return g
 let count <- m.num
 let most := ofInt (k * (k - 1)) / if directed then 1.0 else 2.0
 if Num.le most count then return numbered k directed (called "complete_graph" [n]) (allPairs k directed)
 draw (addRandomEdges g g.verts g.verts count)

def denseGnm : Work Graph := do
 let n <- a.int 0
 let m <- a.num 1
 let most := ofInt (n * (n - 1)) / 2.0
 let name := called "dense_gnm_random_graph" [a 0, a 1]
 let full := Num.le most m
 if full || n = 1 then return numbered n false name (if full then allPairs n false else [])
 sow (a 2)
 let mut out := []
 let mut left := most
 for (u, v) in allPairs n false do
  if left ≤ 0 then throw .badVal
  let x := (<- draw random) * left
  if Num.lt x.floor (m - .int out.length) then
   out := out ++ [(u, v)]
   if m == .int out.length then return numbered n false name out
  left := left - 1.0
 throw .badVal

/-! ## Small worlds -/

def circle (n j : Int) : List (Int × Int) := (range 0 n).map fun i => (i, (i + j) % n)

def freeNode (n : Int) (ns : Vals) (u : Value) : Draw (Option Value) := do
 let mut w <- choice ns
 for _ in [0:patience] do
  if !(w.same u || g.hasEdge u w) then return w
  w <- choice ns
  if n - 1 ≤ g.degree u then return none
 throw .endless

def reach (k : Value) : Res Int :=
 match k with
 | .int k => .ok (.fdiv k 2)
 | .bool _ => .ok 0
 | _ => .error .badKind

def refuseReach (k n : Num) : Res Unit := if n.le k then fail "k>=n, choose smaller k or larger n" else .ok ()

def withShortcuts : Work Graph := do
 sow (a 3)
 refuseReach (<- a.num 1) (<- a.num 0)
 let n <- a.int 0
 let p <- a.num 2
 let r <- reach (a 1)
 let g := numbered n false (called "newman_watts_strogatz_graph" [a 0, a 1, a 2])
  ((range 1 (r + 1)).flatMap (circle n))
 draw (g.edges.foldlM (fun g e => do
  if <- chance p then return (<- freeNode g n g.verts e.src).elim g (g.addEdge e.src)
  return g) g)

def rewired (n k p seed : Value) : Work Graph := do
 refuseReach (<- k.num) (<- n.num)
 sow seed
 let m <- n.asInt
 let q <- p.num
 let r <- reach k
 let pairs := (range 1 (r + 1)).flatMap (circle m)
 let g := ((Graph.new false false).setName (called "watts_strogatz_graph" [n, k, p])).addEdges (pairs.map pair)
 let ns := (range 0 m).map Value.int
 draw (pairs.foldlM (fun g (u, v) => do
  if <- chance q then
   let some w <- freeNode g m ns (.int u) | return g
   if !g.hasEdge u v then fail s!"The edge {u}-{v} is not in the graph"
   return (g.removeEdge u v).addEdge u w
  else return g) g)

def connectedRewired : Work Graph := do
 let make := rewired (a 0) (a 1) (a 2) (a 4)
 let mut g <- make
 let tries <- a.num 3
 for t in [2:patience] do
  if <- g.isConnected then return g
  g <- make
  if Num.lt tries (.int t) then fail "Maximum number of tries exceeded"
 throw .endless

/-! ## Given degrees -/

def inOrder (u v : Nat) : Nat × Nat := if v < u then (v, u) else (u, v)

def isSuitable (edges : List (Nat × Nat)) (ends : List Nat) : Bool := ends.isEmpty || ends.any (row · ends)
where
 row s : List Nat -> Bool
  | [] => false
  | t :: ts =>
   if s = t then false
   else
    let (a, b) := inOrder s t
    if edges.contains (a, b) then row a ts else true

def joinEnds (edges : List (Nat × Nat)) : List Nat -> List (Nat × Nat) × List Nat
 | u :: v :: rest =>
  let e := inOrder u v
  let fits := e.1 != e.2 && !edges.contains e
  let (edges, left) := joinEnds (if fits then edges ++ [e] else edges) rest
  (edges, if fits then left else e.1 :: e.2 :: left)
 | _ => (edges, [])

def grouped (ends : List Nat) : List Nat := ends.eraseDups.flatMap fun u => ends.filter (· = u)

def attempt (n d : Nat) : Draw (Option (List (Nat × Nat))) := do
 let mut edges := []
 let mut stubs := (List.replicate d (.range n)).flatten
 for _ in [0:patience] do
  if stubs.isEmpty then return edges
  let (es, left) := joinEnds edges (<- .shuffle stubs)
  edges := es
  if !isSuitable edges left.eraseDups then return none
  stubs := grouped left
 throw .endless

def regular : Work Graph := do
 let d <- a.int 0
 let n <- a.int 1
 if n * d % 2 != 0 then fail "n * d must be even"
 if !(0 ≤ d && d < n) then fail "the 0 <= d < n inequality must be satisfied"
 sow (a 2)
 for _ in [0:patience] do
  if let some es <- draw (attempt n.toNat d.toNat) then
   let g := (Graph.new false false).setName s!"random_regular_graph({d}, {n})"
   return g.addEdges (es.map fun (u, v) => (.nat u, .nat v))
 throw .endless

def wholeOf : Num -> Int
 | .int i => i
 | .float x => (truncate? x).getD 0

def nearest (x : Float) : Int :=
 let f := x.floor
 let i := (truncate? f).getD 0
 if x - f > 0.5 then i + 1 else if x - f < 0.5 then i else if i % 2 = 0 then i else i + 1

def treeDegrees (gamma tries : Num) : Draw (List Int) := do
 let draw k := (List.range k.toNat).mapM fun _ => return min n (max (nearest (<- .pareto (gamma - 1).toFloat)) 0)
 let count <- tries.value.asInt
 let mut ds <- draw n
 let mut spare <- draw count
 for i in [0:count.toNat] do
  if spare.length ≤ i then break
  if ofInt n - ofInt (Total.ofInts ds) / 2.0 == 1.0 then return ds
  ds := ds.set (<- .inclusive 0 (n - 1)).toNat (spare.getLastD 0)
  spare := spare.dropLast
 throw (exceeded count)
where
 exceeded count : Fault := .graph .fail s!"Exceeded max ({count}) attempts for a valid tree sequence."

def treeSequence : Work (List Int) := do
 sow (a 2)
 draw (treeDegrees (<- a.int 0) (<- a.num 1) (<- a.num 3))

def randomTree : Work Value := do
 let failed := (a 3).num?.elim .badKind fun t => treeDegrees.exceeded (wholeOf t)
 let ref <- treeWithDegrees { values := [.list ((<- .blaming failed (treeSequence a)).map .int), .null] }
 altered ref (·.setName (called "random_powerlaw_tree" [a 0, a 1]))

def drawnSequence (f n further : Value) : Work Vals := do
 match f with
 | .function "pareto" => draw (Sequence.pareto (<- n.asInt).toNat 2.0)
 | .function "uniform" => draw (Sequence.uniform (<- n.asInt))
 | .function "one" => .items 1
 | _ =>
  if further.truth then throw .badKind
  .items (<- (<- get).apply f [n])

def drawnDegrees : Work Value := do
 let tries <- a.num 2
 for t in [0:patience] do
  if !Num.lt (.int t) tries then break
  let ds <- (<- drawnSequence (a 1) (a 0) (a 3)).mapM fun x => do
   let rounded <- match <- x.num with
    | .int i => pure i
    | .float x => if x.isFinite then pure (nearest x) else throw (if x.isNaN then .badVal else .overflow)
   return min (<- (a 0).asInt) (max rounded 0)
  let seq := .list (ds.map .int)
  if <- graphical seq "eg" then return seq
 fail s!"Exceeded max ({wholeOf tries}) attempts at a valid sequence."

/-! ## Trees and shells -/

def lobster : Work Graph := do
 sow (a 3)
 let n <- a.num 0
 let p <- a.num 1
 let q <- a.num 2
 let x := 2.0 * (<- draw random) * n.toFloat + 0.5
 let length := (truncate? x).getD 0
 let name := s!"random_lobster({wholeOf n},{(a 1).shown},{(a 2).shown})"
 let g := numbered length false name (chain 0 (length - 1))
 let (g, _) <- draw ((range 0 length).foldlM (fun acc v => do
  if <- chance p then
   let last := acc.2 + 1
   let g := acc.1.addEdge (.int v) (.int last)
   if <- chance q then return (g.addEdge (.int last) (.int (last + 1)), last + 1)
   return (g, last)
  else return acc) (g, length - 1))
 return g

def shells : Work Graph := do
 let start := numbered 0 false "random_shell_graph(constructor)" []
 sow (a 1)
 let (g, layers, _) <- (<- a.items 0).foldlM (fun acc c => do
  let (n, m, d) <- c.three
  let product <- m.num
  let inside <- (product * (<- d.num)).value.toInt
  let h <- gnm n inside .null false
  let h <- h.counted acc.2.2
  let g <- acc.1.union h (.tuple [.null, .null]) .null
  return (g, acc.2.1 ++ [(h.verts, product - (<- inside.num))], acc.2.2 + (<- n.asInt).toNat)) (start, [], 0)
 draw ((layers.zip (layers.drop 1)).foldlM (fun g ((us, count), vs, _) => addRandomEdges g us vs count) g)

def randomCommands : List Cmd :=
 let gnpLike name := ⟨name, "n p seed? directed=False", fun a => do keep (<- gnp (a 0) (a 1) (a 2) (a.truth 3))⟩
 [⟨"fast_gnp_random_graph", "n p seed? directed=False", fastGnp⟩,
  gnpLike "gnp_random_graph", gnpLike "erdos_renyi_graph", gnpLike "binomial_graph",
  .kept "dense_gnm_random_graph" "n m seed?" denseGnm,
  ⟨"gnm_random_graph", "n m seed? directed=False", gnm⟩,
  .kept "newman_watts_strogatz_graph" "n k p seed?" withShortcuts,
  ⟨"watts_strogatz_graph", "n k p seed?", rewired⟩,
  .kept "connected_watts_strogatz_graph" "n k p tries=100 seed?" connectedRewired,
  .kept "random_regular_graph" "d n seed?" regular,
  ⟨"random_powerlaw_tree", "n gamma=3 seed? tries=100", randomTree⟩,
  ⟨"random_powerlaw_tree_sequence", "n gamma=3 seed? tries=100", fun a =>
   return .list ((<- treeSequence a).map .int)⟩,
  ⟨"utils.create_degree_sequence", "n sfunction? max_tries=50 **kwds", drawnDegrees⟩,
  .kept "random_lobster" "n p1 p2 seed?" lobster,
  .kept "random_shell_graph" "constructor seed?" shells]

end DexLens.Network.Generate
