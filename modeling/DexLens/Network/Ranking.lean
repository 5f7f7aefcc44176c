import DexLens.Network.CostFlow

/-! # Importance of nodes by repeated exchange -/

namespace DexLens.Network

open Graph Num

namespace Num

def square : Num -> Res Num
 | int i => .ok (int (i * i))
 | float x =>
  let y := .pow x 2.0
  if y.isInf && !x.isInf then .error .overflow else .ok (float y)

def length (xs : List Num) : Res Float := return (sum (<- xs.mapM square)).toFloat.sqrt

def inverse (x : Num) : Res Num := div (float 1.0) x

end Num

namespace Graph

variable (g : Graph) (t : Table Num) (weight : Value)

def numbers (t : Items) : Res (Table Num) := t.mapM fun (k, v) => return (k, <- v.num)

def times (s : Num) : Table Num := t.map fun (k, x) => (k, x * s)

def distance (t u : Table Num) : Num := sum (t.map fun (k, x) => magnitude (x - u.getD k 0))

def handOn (x : Table Num) : Res (Table Num) :=
 x.foldlM (fun t (n, a) => do
  (<- g.row n).foldlM (fun t (m, b) => do
   let w <- (b.items.getD weight 1).num
   return t.put m ((<- t.get m) + a * w)) t) (x.map fun (k, _) => (k, 0))

def ofLengthOne : Res (Table Num) := do
 let l <- length t.values
 return times t (.float (if l == 0 then 1.0 else 1.0 / l))

def ofSumOne : Res (Table Num) := return times t (<- (sum t.values).inverse)

def equalShares : Table Num := g.verts.map (·, .float (1.0 / ofInt g.order))

def eigenvectorCentrality (steps : Nat) (tolerance : Num) (begin_ : Table Num) (weight : Value) : Res (Table Num) := do
 let mut x <- ofSumOne begin_
 for _ in [0:steps] do
  let y <- g.handOn weight x
  let y <- ofLengthOne y
  if (distance y x).lt (.int g.order * tolerance) then return y
  x := y
 fail "eigenvector_centrality():\npower iteration failed to converge in %d iterations.\"%(i+1))"

def katzCentrality (alpha : Num) (own : Value -> Res Num) (steps : Nat) (tolerance : Num)
 (begin_ : Table Num) (normalized : Bool) (weight : Value) : Res (Table Num) := do
 let mut x := begin_
 for _ in [0:steps] do
  let y <- g.handOn weight x
  let y <- y.mapM fun (n, a) => return (n, alpha * a + (<- own n))
  if (distance y x).lt (.int g.order * tolerance) then if normalized then return <- ofLengthOne y else return y
  x := y
 fail "('Power iteration failed to converge in ', '%d iterations.\"%(i+1))')"

def stochastic : Res Graph := do
 let degrees <- g.degreesOf .leaving weight g.succ.keys
 g.edges.foldlM (fun h e => do
  let d <- (<- degrees.get e.src).num
  if d.isZero then
   discard e.src.filling
   return h.setEdgeAttr e.src e.dst weight (.float 0.0)
  return h.setEdgeAttr e.src e.dst weight (.float ((<- (e.get weight (.float 1.0)).asFloat) / d.toFloat))) g

def shares (t : Items) : Res (Table Num) := do
 let xs <- numbers t
 let s := float (sum xs.values).toFloat
 xs.mapM fun (k, x) => return (k, <- x.div s)

structure Surfer where
 alpha : Num
 steps : Nat
 tolerance : Num
 weight : Value

def surf (w : Graph) (s : Surfer) (begin_ jumps dangling : Table Num) : Res (Table Num) := do
 let stuck <- w.verts.filterM fun n => return (<- (<- w.degreeOf .leaving s.weight n).num).isZero
 let mut x := begin_
 for _ in [0:s.steps] do
  let lost := s.alpha * sum (<- stuck.mapM x.get)
  let y <- x.foldlM (fun (t : Table Num) (n, a) => do
   let t <- (<- w.row n).foldlM (fun t (m, b) => do
    let c <- (<- b.items.get s.weight).num
    return t.put m ((<- t.get m) + s.alpha * a * c)) t
   let own := lost * (<- dangling.get n) + (.float 1.0 - s.alpha) * (<- jumps.get n)
   return t.put n ((<- t.get n) + own)) (x.map fun (k, _) => (k, 0))
  if (distance y x).lt (.int w.order * s.tolerance) then return y
  x := y
 fail s!"pagerank: power iteration failed to converge in {s.steps} iterations."

def toTop : Res (Table Num) := return times t (<- (<- (<- Value.greatest (t.values.map value)).num).inverse)

def hubs (steps tolerance : Num) (begin_ : Table Num) (normalized : Bool) : Res (Table Num × Table Num) := do
 let bound := if let .int i := steps then i.toNat + 3 else 100000
 let mut h := begin_
 for i in [0:bound] do
  let a <- g.handOn "weight" h
  let new <- h.mapM fun (n, _) =>
   return (n, sum (<- (<- g.row n).mapM fun (m, b) => return (<- a.get m) * (<- (b.items.getD "weight" 1).num)))
  let new <- toTop new
  let a <- toTop a
  if (distance new h).lt tolerance then
   if !normalized then return (new, a)
   let a <- ofSumOne a
   return (<- ofSumOne new, a)
  h := new
  if steps.lt (.int i) then fail s!"HITS: power iteration failed to converge in {i + 1} iterations."
 fail s!"HITS: power iteration failed to converge in {bound} iterations."

end Graph

namespace Ranking

variable (a : Args) (g : Graph) (v : Value) (i : Nat)

def steps : Work Nat := return (<- a.int i).toNat

def given (dflt : Table Num) : Work (Table Num) := do
 if a.isNull i then return dflt
 numbers (<- a.dict i)

def table (t : Table Num) : Value := .ofTable value t

def eigenvector : Work Value := do
 let g <- a.graph
 if g.multi then throw (.graph .general "Not defined for multigraphs.")
 if g.order = 0 then throw (.graph .general "Empty graph.")
 let x <- given a 3 g.equalShares
 return table (<- g.eigenvectorCentrality (<- steps a 1) (<- a.num 2) x (a 4))

def ownShare (beta : Value) : Work (Value -> Res Num) := do
 match beta.toFloat with
 | .ok (.float x) => return fun _ => .ok (.float x)
 | .ok _ => throw .badKind
 | .error .overflow => throw .overflow
 | .error _ =>
  let keys <- .items beta
  if !(Value.set (uniq (<- keys.mapM (·.key))) == .set g.verts) then
   fail "beta dictionary must have a value for every node"
  return fun n =>
   match beta, n with
   | .dict t, n => do (<- Table.get t n).num
   | .list xs, .int i => do (<- opt .beyond xs[i.toNat]?).num
   | _, _ => .error .badKind

def katz : Work Value := do
 let g <- a.graphNot "multigraph"
 if g.order = 0 then return .dict []
 let x <- given a 5 (g.verts.map (·, 0))
 let own <- ownShare g (a 2)
 return table (<- g.katzCentrality (<- a.num 1) own (<- steps a 3) (<- a.num 4) x (a.truth 6) (a 7))

def mustCover (nodes : Vals) (word : String) : Work Unit := do
 let keys <- .items v
 let missing := nodes.filter (!keys.contains ·)
 if !missing.isEmpty then
  fail (word ++ " dictionary must have a value for every node. Missing nodes " ++ (Value.set missing).shown)

def sharesFor (word : String) : Work (Table Num) := do
 mustCover v g.verts word
 let .dict t := v | throw .noPart
 shares t

def pagerank : Work Value := do
 let g <- a.graphNot "multigraph"
 if g.order = 0 then return .dict []
 let w <- g.toDirected.stochastic (a 6)
 let x <- if a.isNull 5 then pure w.equalShares else shares (<- a.dict 5)
 let p <- if a.isNull 2 then pure w.equalShares else sharesFor g (a 2) "Personalization"
 let d <- if a.isNull 7 then pure p else sharesFor g (a 7) "Dangling node"
 return table (<- w.surf { alpha := <- a.num 1, steps := <- steps a 3, tolerance := <- a.num 4, weight := a 6 } x p d)

def hits : Work Value := do
 let g <- a.graph
 if g.multi then throw .unspecified
 if g.order = 0 then return .tuple [.dict [], .dict []]
 let h <- if a.isNull 3 then pure g.equalShares else do ofSumOne (<- numbers (<- a.dict 3))
 let (h, s) <- g.hubs (<- a.num 1) (<- a.num 2) h (a.truth 4)
 return .tuple [table h, table s]

def cmds : List Cmd := [
 ⟨"eigenvector_centrality", "G max_iter=100 tol=1.0e-6 nstart? weight=", eigenvector⟩,
 ⟨"katz_centrality", "G alpha=0.1 beta=1.0 max_iter=1000 tol=1.0e-6 nstart? normalized=True weight=", katz⟩,
 ⟨"pagerank", "G alpha=0.85 personalization? max_iter=100 tol=1.0e-6 nstart? weight= dangling?", pagerank⟩,
 ⟨"hits", "G max_iter=100 tol=1.0e-8 nstart? normalized=True", hits⟩,
 ⟨"stochastic_graph", "G copy=True weight=", fun a => do
  let _ <- a.graphNot "multigraph"
  let g <- a.graphNot "undirected"
  if a.truth 1 then keep (<- (<- (new true false).converted g).stochastic (<- (a 2).key))
  else
   update (a 0) (<- g.stochastic (<- (a 2).key))
   return a 0⟩]

end Ranking

end DexLens.Network
