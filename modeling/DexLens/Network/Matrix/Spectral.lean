import DexLens.Network.Matrix.CurrentFlow

/-! # Importance of nodes from matrices -/

namespace DexLens.Network.Spectral

open Float Grid Matrix Table Value

variable (a : Args) (nodes : Vals) (m : Grid) (name : String) (g : Graph)

/-! ## Communicability -/

def links : Work (Graph × Grid) := do
 discard (a.graphNot "directed")
 let g <- a.graphNot "multigraph"
 return (g, (<- adjacency g g.verts).map fun x => if x != 0 then 1 else x)

def symmetricExponential : Grid :=
 let (values, vectors) := m.symmetricEigen
 let powers := (values.map exp).toArray
 build m.height m.width fun i j =>
  (List.range m.height).foldl (fun s k => s + vectors.get i k * vectors.get j k * powers.getD k 0) 0

def byNode (xs : List Float) : Value := .dict ((nodes.zip xs).map fun (n, x) => (n, x))

def byPair : Value := .dict ((nodes.zip m.rows).map fun (n, r) => (n, byNode nodes r))

def walkShares : List Float :=
 let all := m.exponential
 let n := m.height
 (List.range n).map fun k =>
  let without := (build n n fun i j => if i = k || j = k then 0 else m.get i j).exponential
  let parts := build n n fun i j =>
   let x := (all.get i j - without.get i j) / all.get i j
   if i = k || j = k then 0 else if i = j then x - x else x
  parts.sum

def communicabilityBetweenness : Work Value := do
 let (g, m) <- links a
 let shares := walkShares m
 let .bool true := a 1 | throw .unbound
 let n := ofNat g.order
 if g.order ≤ 2 then return byNode g.verts shares
 let scale := 1.0 / ((n - 1.0) * (n - 1.0) - (n - 1.0))
 return byNode g.verts (shares.map (· * scale))

def bipartivity : Work Value := do
 let g <- a.graph
 let m <- adjacency g g.verts (a 2)
 let up := m.exponential
 let down := (m.scale (-1)).exponential
 let even := (up + down).scale 0.5
 match a 1 with
 | .null => return .float (even.trace / up.trace)
 | v =>
  let rows <- (<- .items v).mapM fun n => do
   let i <- opt .noKey (g.verts.findIdx? (· == (<- n.key)))
   return (n, float (even.get i i / up.get i i))
  return .dict (ofList rows)

/-! ## Eigenvectors and linear equations -/

def eigenvectorCentrality : Work Value := do
 let g <- a.graph
 if g.order = 0 then throw (.graph .general "Empty graph.")
 let m <- stored g (a 1) (some .double)
 if g.order ≤ 2 then throw .badKind
 let v <- leadingVector m.transpose Root.re
 let s := total v
 let sign := if s > 0 then 1 else if s < 0 then -1 else 0
 let l := sign * (dot v v).sqrt
 return byNode g.verts (v.map (· / l))

def katz : Work Value := do
 let g <- a.graphNot "multigraph"
 if g.order = 0 then return .dict []
 let (nodes, own) <- match a 2 with
  | .dict t =>
   if !(set (keys t) == .set g.verts) then fail "beta dictionary must have a value for every node"
   pure (keys t, <- (values t).mapM (·.entry))
  | v =>
   match v.toFloat with
   | .ok (.float x) => pure (g.verts, g.verts.map fun _ => x)
   | .error .overflow => throw .overflow
   | _ => fail "beta must be a number"
 let m := (<- entries g (<- Frame.ofList nodes) (a 4) none).grid.transpose
 let n := nodes.length
 let alpha := (<- a.num 1).toFloat
 let system := unit n - m.scale alpha
 let xs := (<- opt .singular (system.solve? (ofRows 1 (own.map fun x => [x])))).column 0
 let s := total xs
 let sign := if s > 0 then 1 else if s < 0 then -1 else s
 let l := if a.truth 3 then sign * (dot xs xs).sqrt else 1.0
 return byNode nodes (xs.map (· / l))

def shareVector (v : Value) (word : String) : Work (List Float) := do
 Ranking.mustCover v (gathered nodes) word
 let t <- if let .dict t := v then pure t else throw .badKind
 return ofSumOne (<- nodes.mapM fun n => do (<- get t n).entry)

structure Surf where
 alpha : Float
 (personal dangling : List Float)

variable (nodes : Vals)

def surf (alpha personal dangling : Nat) : Work Surf := do
 let n := ofNat g.order
 let p <- if a.isNull personal then pure (g.verts.map fun _ => 1.0 / n)
  else shareVector nodes (a personal) "Personalization vector"
 let d <- if a.isNull dangling then pure p else shareVector nodes (a dangling) "Dangling node"
 return ⟨(<- a.num alpha).toFloat, p, d⟩

def googleMatrix (weight : Value) (s : Surf) : Res Grid := do
 let m <- adjacency g nodes weight
 if nodes.length != g.order then .error .badVal
 let p := s.personal.toArray
 return ofRows m.width (m.rows.map fun r =>
  let r := if Grid.sumOf r == 0 then s.dangling else r
  let t := Grid.sumOf r
  r.zipIdx.map fun (x, j) => s.alpha * (x / t) + (1 - s.alpha) * p.getD j 0)

def google : Work Value := do
 let g <- a.graph
 let nodes <- if a.isNull 3 then pure g.verts else counted (a 3)
 if g.order = 0 then return (<- adjacency g nodes (a 4)).value .double
 discard (Frame.ofList nodes)
 return (<- googleMatrix g nodes (a 4) (<- surf a g nodes 1 2 5)).value .double

def pagerankByEigenvector : Work Value := do
 let g <- a.graph
 if g.order = 0 then return .dict []
 let m <- googleMatrix g g.verts (a 3) (<- surf a g g.verts 1 2 4)
 if !m.isFinite then throw .singular
 return byNode g.verts (ofSumOne (<- leadingVector m.transpose Root.re))

def pagerankBySteps : Work Value := do
 let g <- a.graph
 if g.order = 0 then return .dict []
 let n := ofNat g.order
 let m <- stored g (a 5) (some .double)
 let sums := m.rowSums
 let steps := (ofRows m.width ((m.rows.zip sums).map fun (r, s) =>
  r.map fun x => if s == 0 then x else 1.0 / s * x)).transpose
 let s <- surf a g g.verts 1 2 6
 let limit <- a.int 3
 let tolerance := (<- a.num 4).toFloat
 let mut x := g.verts.map fun _ => 1.0 / n
 for _ in [0:limit.toNat] do
  let lost := total (((x.zip sums).filter (·.2 == 0)).map (·.1))
  let flow := steps.apply x
  let y := (flow.zip (s.dangling.zip s.personal)).map fun (f, d, p) => s.alpha * (f + lost * d) + (1 - s.alpha) * p
  let err := total ((y.zip x).map fun (u, v) => (u - v).abs)
  if err < n * tolerance then return byNode g.verts y
  x := y
 fail s!"pagerank_scipy: power iteration failed to converge in {limit} iterations."

def topVector (normalized : Bool) : List Float :=
 let (values, vectors) := m.symmetricEigen
 let v := vectors.column ((ascending values).getLastD 0)
 let s := if normalized then total v else v.foldl max (v.headD 0)
 v.map (· / s)

def hitsByEigenvector : Work Value := do
 let g <- a.graph
 if g.order = 0 then return .tuple [.dict [], .dict []]
 let m <- adjacency g g.verts
 let t := m.transpose
 return .tuple ([m * t, t * m].map fun p => byNode g.verts (topVector p (a.truth 1)))

def hitsBySteps : Work Value := do
 let g <- a.graph
 if g.order = 0 then return .tuple [.dict [], .dict []]
 let n := g.order
 let m <- stored g "weight" none
 let both := m.transpose * m
 let limit <- a.int 1
 let tolerance := (<- a.num 2).toFloat
 let mut x := .replicate n (1.0 / ofNat n)
 for i in [0:limit.toNat + 3] do
  let y := both.apply x
  let top := most y
  let y := y.map (· / top)
  let err := total ((y.zip x).map fun (u, v) => (u - v).abs)
  x := y
  if err < tolerance then
   return .tuple ([m.apply x, x].map fun xs => byNode g.verts (if a.truth 3 then ofSumOne xs else xs))
  if limit < i then fail s!"HITS: power iteration failed to converge in {i + 1} iterations."
 throw .endless

def linked (view : Vals -> Grid -> Value) : Cmd :=
 ⟨name, "G", fun a => do
  let (g, m) <- links a
  return view g.verts m⟩

def product (of : Grid -> Grid) : Cmd :=
 .of name "G nodelist?" fun g a => return (of (<- adjacency g (<- frame a g 1).nodes)).value .double

def cmds : List Cmd := [
 linked "communicability" fun ns m => byPair ns (symmetricExponential m),
 linked "communicability_exp" (byPair · ·.exponential),
 linked "communicability_centrality" fun ns m => byNode ns (symmetricExponential m).mainDiagonal,
 linked "communicability_centrality_exp" (byNode · ·.exponential.mainDiagonal),
 ⟨"communicability_betweenness_centrality", "G normalized=True", communicabilityBetweenness⟩,
 linked "estrada_index" fun ns m => if ns.isEmpty then 0 else (symmetricExponential m).trace,
 ⟨"spectral_bipartivity", "G nodes? weight=", bipartivity⟩,
 ⟨"eigenvector_centrality_numpy", "G weight=", eigenvectorCentrality⟩,
 ⟨"katz_centrality_numpy", "G alpha=0.1 beta=1.0 normalized=True weight=", katz⟩,
 ⟨"google_matrix", "G alpha=0.85 personalization? nodelist? weight= dangling?", google⟩,
 ⟨"pagerank_numpy", "G alpha=0.85 personalization? weight= dangling?", pagerankByEigenvector⟩,
 ⟨"pagerank_scipy", "G alpha=0.85 personalization? max_iter=100 tol=1.0e-6 weight= dangling?",
  pagerankBySteps⟩,
 product "hub_matrix" fun m => m * m.transpose, product "authority_matrix" fun m => m.transpose * m,
 ⟨"hits_numpy", "G normalized=True", hitsByEigenvector⟩,
 ⟨"hits_scipy", "G max_iter=100 tol=1.0e-6 normalized=True", hitsBySteps⟩]

end DexLens.Network.Spectral
